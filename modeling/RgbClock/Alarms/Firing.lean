import RgbClock.Alarms.Due
import RgbClock.Lib.Run
import Mathlib.Data.List.Chain

/-! An alarm rings once for every minute it is due. The passes of the loop over one alarm do not
depend on the other alarms, so the count is taken along the reads that are made for that alarm. -/

namespace RgbClock.Alarms
open Runs

/-! ### The passes over one alarm -/

abbrev Pass := Nat × Nat

def readsAt (pass : Pass) : Reads := ⟨localTimeAt pass.1, localTimeAt pass.2⟩

namespace Alarm

def after (alarm : Alarm) (passes : List Pass) : Alarm :=
  run (fun a pass => a.passed (readsAt pass)) alarm passes

def ringsIn (minute : Nat) : Alarm → List Pass → Nat
  | _, [] => 0
  | alarm, pass :: rest =>
    (if pass.1 = minute ∧ alarm.fires (localTimeAt pass.1) = true then 1 else 0) +
      ringsIn minute (alarm.passed (readsAt pass)) rest

theorem after_concat (alarm : Alarm) (passes : List Pass) (last : Pass) :
    alarm.after (passes ++ [last]) = (alarm.after passes).passed (readsAt last) :=
  run_concat _ _ _ _

theorem ringsIn_concat (minute : Nat) (alarm : Alarm) (passes : List Pass) (last : Pass) :
    ringsIn minute alarm (passes ++ [last]) = ringsIn minute alarm passes +
      if last.1 = minute ∧ (alarm.after passes).fires (localTimeAt last.1) = true then 1 else 0 := by
  induction passes generalizing alarm with
  | nil =>
    rw [List.nil_append, ringsIn, ringsIn, ringsIn, Nat.add_comm]
    rfl
  | cons pass rest ih =>
    rw [List.cons_append, ringsIn, ih, ringsIn, Nat.add_assoc]
    rfl

theorem resetSignalled_eq (alarm : Alarm) (time : LocalTime) :
    alarm.resetSignalled time = { alarm with mSignalled := decide (alarm.Shows time) && alarm.mSignalled } := by
  unfold resetSignalled
  by_cases shows : alarm.Shows time
  · have same : ¬ (alarm.mHour ≠ time.mHour ∨ alarm.mMinutes ≠ time.mMin) := by
      intro given
      obtain hour | minute := given
      · exact hour shows.1
      · exact minute shows.2
    simp [same, shows]
  · have other : alarm.mHour ≠ time.mHour ∨ alarm.mMinutes ≠ time.mMin := by
      by_contra same
      push Not at same
      exact shows same
    simp [other, shows]

theorem passed_eq (alarm : Alarm) (reads : Reads) : alarm.passed reads =
    { alarm with
      mSignalled := decide (alarm.Shows reads.second) && (alarm.fires reads.first || alarm.mSignalled)
      mEnabled := alarm.mEnabled && !(alarm.fires reads.first && alarm.oneTimeAlarm) } := by
  unfold passed
  rw [resetSignalled_eq]
  cases alarm.fires reads.first with
  | false => simp
  | true =>
    have shows : alarm.fired.Shows reads.second ↔ alarm.Shows reads.second := Iff.rfl
    cases once : alarm.oneTimeAlarm <;> simp [shows] <;> simp [fired, once]

theorem passed_mSignalled (alarm : Alarm) (reads : Reads) :
    (alarm.passed reads).mSignalled =
      (decide (alarm.Shows reads.second) && (alarm.fires reads.first || alarm.mSignalled)) := by
  rw [passed_eq]

theorem passed_mEnabled (alarm : Alarm) (reads : Reads) :
    (alarm.passed reads).mEnabled = (alarm.mEnabled && !(alarm.fires reads.first && alarm.oneTimeAlarm)) := by
  rw [passed_eq]

theorem after_frame (alarm : Alarm) (passes : List Pass) : alarm.after passes =
    { alarm with mSignalled := (alarm.after passes).mSignalled, mEnabled := (alarm.after passes).mEnabled } := by
  induction passes using List.reverseRecOn with
  | nil => rfl
  | append_singleton front last ih =>
    rw [after_concat, passed_eq, ih]

section
variable (alarm : Alarm) (passes : List Pass)

theorem after_oneTimeAlarm : (alarm.after passes).oneTimeAlarm = alarm.oneTimeAlarm := by
  rw [after_frame]
  rfl

theorem after_reaches (o : AlarmObserver) : (alarm.after passes).reaches o = alarm.reaches o := by
  rw [after_frame]
  rfl

theorem after_shows (time : LocalTime) : (alarm.after passes).Shows time ↔ alarm.Shows time := by
  rw [after_frame]
  rfl

theorem after_dueAt (minute : Nat) : (alarm.after passes).DueAt minute ↔ alarm.DueAt minute := by
  rw [after_frame]
  rfl

theorem after_clocked : (alarm.after passes).Clocked ↔ alarm.Clocked := by
  rw [after_frame]
  rfl

end

end Alarm

section
variable {alarm : Alarm} {passes : List Pass}

theorem after_fires_iff (clocked : alarm.Clocked) (passes : List Pass) (minute : Nat) :
    (alarm.after passes).fires (localTimeAt minute) = true ↔
      (alarm.after passes).mEnabled = true ∧ alarm.DueAt minute ∧ (alarm.after passes).mSignalled = false := by
  rw [fires_iff ((Alarm.after_clocked alarm passes).mpr clocked), Alarm.after_dueAt]

/-- An alarm that is still signalled has fired before, and no read since then has reset the flag. -/
theorem signalled_since (clocked : alarm.Clocked) (fresh : alarm.mSignalled = false)
    (signalled : (alarm.after passes).mSignalled = true) :
    ∃ before fired since, passes = before ++ fired :: since ∧ alarm.DueAt fired.1 ∧
      ∀ pass ∈ fired :: since, alarm.Shows (localTimeAt pass.2) := by
  induction passes using List.reverseRecOn with
  | nil =>
    rw [show alarm.after [] = alarm from rfl, fresh] at signalled
    cases signalled
  | append_singleton front last ih =>
    rw [Alarm.after_concat, Alarm.passed_mSignalled, Bool.and_eq_true, decide_eq_true_eq, Bool.or_eq_true,
      Alarm.after_shows] at signalled
    obtain ⟨shows, fires | earlier⟩ := signalled
    · have due := ((after_fires_iff clocked front last.1).mp fires).2.1
      refine ⟨front, last, [], rfl, due, ?_⟩
      intro pass member
      rw [List.mem_singleton.mp member]
      exact shows
    · obtain ⟨before, fired, since, rfl, due, shown⟩ := ih earlier
      refine ⟨before, fired, since ++ [last], by simp, due, ?_⟩
      intro pass member
      rcases List.mem_append.mp (by simpa using member : pass ∈ (fired :: since) ++ [last]) with inside | final
      · exact shown pass inside
      · rw [List.mem_singleton.mp final]
        exact shows

end

/-! ### Reads that never go back -/

/-- The reads for one alarm, from minute `start` on: they do not go back, and the second read of
a pass is at most one minute ahead of the first. -/
structure Orderly (start : Nat) (passes : List Pass) : Prop where
  begins : ∀ pass ∈ passes, start ≤ pass.1
  forward : ∀ pass ∈ passes, pass.1 ≤ pass.2
  close : ∀ pass ∈ passes, pass.2 ≤ pass.1 + 1
  ordered : passes.Pairwise fun earlier later => earlier.2 ≤ later.1

def Sees (passes : List Pass) (minute : Nat) : Prop := ∃ pass ∈ passes, pass.1 = minute

instance (passes : List Pass) (minute : Nat) : Decidable (Sees passes minute) :=
  inferInstanceAs (Decidable (∃ pass ∈ passes, pass.1 = minute))

section
variable {start minute : Nat} {alarm : Alarm} {passes front : List Pass} {last : Pass}

theorem Orderly.initial (orderly : Orderly start (front ++ [last])) : Orderly start front where
  begins := fun pass member => orderly.begins pass (List.mem_append_left _ member)
  forward := fun pass member => orderly.forward pass (List.mem_append_left _ member)
  close := fun pass member => orderly.close pass (List.mem_append_left _ member)
  ordered := (List.pairwise_append.mp orderly.ordered).1

theorem Orderly.last_after (orderly : Orderly start (front ++ [last])) {pass : Pass} (member : pass ∈ front) :
    pass.2 ≤ last.1 :=
  (List.pairwise_append.mp orderly.ordered).2.2 pass member last List.mem_cons_self

theorem Orderly.last_read (orderly : Orderly start (front ++ [last])) : start ≤ last.1 ∧ last.1 ≤ last.2 :=
  ⟨orderly.begins last (by simp), orderly.forward last (by simp)⟩

theorem sees_concat : Sees (front ++ [last]) minute ↔ Sees front minute ∨ last.1 = minute := by
  simp only [Sees, List.mem_append, List.mem_singleton]
  constructor
  · intro given
    obtain ⟨pass, member | rfl, same⟩ := given
    · exact Or.inl ⟨pass, member, same⟩
    · exact Or.inr same
  · intro given
    obtain ⟨pass, member, same⟩ | same := given
    · exact ⟨pass, Or.inl member, same⟩
    · exact ⟨last, Or.inr rfl, same⟩

/-! ### Daily alarms -/

theorem after_enabled_of_daily (daily : alarm.oneTimeAlarm = false) (passes : List Pass) :
    (alarm.after passes).mEnabled = alarm.mEnabled := by
  induction passes using List.reverseRecOn with
  | nil => rfl
  | append_singleton front last ih =>
    rw [Alarm.after_concat, Alarm.passed_mEnabled, Alarm.after_oneTimeAlarm, daily, ih]
    simp

/-- While the clock still shows a due minute that was seen, the alarm is signalled. -/
theorem signalled_of_seen (clocked : alarm.Clocked) (daily : alarm.oneTimeAlarm = false)
    (enabled : alarm.mEnabled = true) (orderly : Orderly start (front ++ [last])) (due : alarm.DueAt last.2)
    (seen : Sees (front ++ [last]) last.2) : (alarm.after (front ++ [last])).mSignalled = true := by
  have current : last.1 = last.2 := by
    rcases sees_concat.mp seen with ⟨pass, member, same⟩ | same
    · have forward := orderly.initial.forward pass member
      have earlier := orderly.last_after member
      have read := orderly.last_read.2
      omega
    · exact same
  rw [Alarm.after_concat, Alarm.passed_mSignalled, Bool.and_eq_true, decide_eq_true_eq, Bool.or_eq_true,
    Alarm.after_shows]
  refine ⟨due.1, ?_⟩
  cases signalled : (alarm.after front).mSignalled with
  | true => exact Or.inr rfl
  | false =>
    refine Or.inl ((after_fires_iff clocked front last.1).mpr ⟨?_, ?_, signalled⟩)
    · rw [after_enabled_of_daily daily, enabled]
    · rw [current]
      exact due

/-- A due minute that is read for the first time finds the flag reset: the minute but one before
it was read too, by a pass whose second read does not show the alarm. -/
theorem not_signalled_of_unseen (clocked : alarm.Clocked) (fresh : alarm.mSignalled = false)
    (orderly : Orderly start (front ++ [last]))
    (covered : ∀ minute, start ≤ minute → minute < last.1 → Sees front minute)
    (due : alarm.DueAt last.1) (unseen : ¬ Sees front last.1) : (alarm.after front).mSignalled = false := by
  by_contra signalled
  rw [Bool.not_eq_false] at signalled
  obtain ⟨before, fired, since, rfl, dueThen, shown⟩ := signalled_since clocked fresh signalled
  have present : fired ∈ before ++ fired :: since := by simp
  have earlier : fired.1 ≤ last.1 := Nat.le_trans (orderly.initial.forward _ present) (orderly.last_after present)
  have different : fired.1 ≠ last.1 := fun same => unseen ⟨fired, present, same⟩
  have apart := shows_apart clocked dueThen.1 due.1 (by omega)
  have begins := orderly.initial.begins fired present
  obtain ⟨pass, member, read⟩ := covered (last.1 - 2) (by omega) (by omega)
  have close := orderly.initial.close pass member
  have forward := orderly.initial.forward pass member
  rcases List.mem_append.mp member with old | recent
  · have order := (List.pairwise_append.mp orderly.initial.ordered).2.2 pass old fired List.mem_cons_self
    omega
  · have near := shown pass recent
    rcases Nat.lt_or_ge pass.2 last.1 with before | after
    · have gap := shows_apart clocked near due.1 before
      omega
    · omega

/-- A minute that is read again was the last one read before. -/
theorem Orderly.previous_read {older : List Pass} {previous : Pass}
    (orderly : Orderly start ((older ++ [previous]) ++ [last])) (seen : Sees (older ++ [previous]) last.1) :
    previous.2 = last.1 := by
  obtain ⟨pass, member, read⟩ := seen
  have top := orderly.last_after (show previous ∈ older ++ [previous] by simp)
  have read2 := orderly.initial.last_read.2
  rcases List.mem_append.mp member with inside | final
  · have order := orderly.initial.last_after inside
    have forward := orderly.initial.forward pass member
    omega
  · rw [List.mem_singleton.mp final] at read
    omega

theorem ringsIn_of_daily (clocked : alarm.Clocked) (daily : alarm.oneTimeAlarm = false)
    (enabled : alarm.mEnabled = true) (fresh : alarm.mSignalled = false) (orderly : Orderly start passes)
    (covered : ∀ pass ∈ passes, ∀ minute, start ≤ minute → minute < pass.1 → Sees passes minute) (minute : Nat) :
    Alarm.ringsIn minute alarm passes = if alarm.DueAt minute ∧ Sees passes minute then 1 else 0 := by
  induction passes using List.reverseRecOn with
  | nil => simp [Alarm.ringsIn, Sees]
  | append_singleton front last ih =>
    have coveredFront : ∀ pass ∈ front ++ [last], ∀ t, start ≤ t → t < pass.1 → Sees front t := by
      intro pass member t begins below
      rcases sees_concat.mp (covered pass member t begins below) with seen | same
      · exact seen
      · rcases List.mem_append.mp member with inside | final
        · have forward := orderly.initial.forward pass inside
          have later := orderly.last_after inside
          omega
        · rw [List.mem_singleton.mp final] at below
          omega
    have earlier := ih orderly.initial (fun pass member => coveredFront pass (List.mem_append_left _ member))
    have fires : (alarm.after front).fires (localTimeAt last.1) = true ↔
        alarm.DueAt last.1 ∧ ¬ Sees front last.1 := by
      rw [after_fires_iff clocked, after_enabled_of_daily daily, enabled]
      constructor
      · intro given
        obtain ⟨_, due, quiet⟩ := given
        refine ⟨due, fun seen => ?_⟩
        rcases List.eq_nil_or_concat' front with rfl | ⟨older, previous, rfl⟩
        · obtain ⟨pass, member, _⟩ := seen
          cases member
        · have same := orderly.previous_read seen
          rw [signalled_of_seen clocked daily enabled orderly.initial (by rwa [same]) (by rwa [same])] at quiet
          cases quiet
      · intro given
        obtain ⟨due, unseen⟩ := given
        exact ⟨rfl, due, not_signalled_of_unseen clocked fresh orderly (coveredFront last (by simp)) due unseen⟩
    rw [Alarm.ringsIn_concat, earlier]
    simp only [sees_concat]
    by_cases here : last.1 = minute
    · subst here
      by_cases due : alarm.DueAt last.1 <;> by_cases seen : Sees front last.1 <;> simp [fires, due, seen]
    · simp [here]

/-! ### One-time alarms -/

theorem after_of_one_time (clocked : alarm.Clocked) (once : alarm.oneTimeAlarm = true)
    (enabled : alarm.mEnabled = true) (fresh : alarm.mSignalled = false) (passes : List Pass) :
    ((∀ pass ∈ passes, ¬ alarm.DueAt pass.1) → alarm.after passes = alarm) ∧
    ((∃ pass ∈ passes, alarm.DueAt pass.1) → (alarm.after passes).mEnabled = false) := by
  induction passes using List.reverseRecOn with
  | nil => exact ⟨fun _ => rfl, fun ⟨_, member, _⟩ => by cases member⟩
  | append_singleton front last ih =>
    rw [Alarm.after_concat]
    constructor
    · intro none
      have same := ih.1 (fun pass member => none pass (List.mem_append_left _ member))
      have quiet : ¬ alarm.fires (localTimeAt last.1) = true := fun fires =>
        none last (by simp) ((fires_iff clocked last.1).mp fires).2.1
      have idle : alarm.fires (readsAt last).first = false := Bool.eq_false_iff.mpr quiet
      rw [same, Alarm.passed_eq, idle, fresh, Bool.false_and, Bool.or_false, Bool.and_false, Bool.not_false,
        Bool.and_true, ← fresh]
    · intro some
      rw [Alarm.passed_mEnabled, Alarm.after_oneTimeAlarm, once, Bool.and_true]
      by_cases earlier : ∃ pass ∈ front, alarm.DueAt pass.1
      · rw [ih.2 earlier, Bool.false_and]
      · have same := ih.1 (fun pass member due => earlier ⟨pass, member, due⟩)
        obtain ⟨pass, member, due⟩ := some
        have final : pass = last := by
          rcases List.mem_append.mp member with inside | final
          · exact absurd ⟨pass, inside, due⟩ earlier
          · exact List.mem_singleton.mp final
        subst final
        have fires : alarm.fires (readsAt pass).first = true := (fires_iff clocked pass.1).mpr ⟨enabled, due, fresh⟩
        rw [same, fires, Bool.not_true, Bool.and_false]

/-- Once a pass of the front was due, the last pass is no longer the first that is. -/
theorem first_due_concat (orderly : Orderly start (front ++ [last])) (earlier : ∃ pass ∈ front, alarm.DueAt pass.1) :
    (alarm.DueAt minute ∧ Sees (front ++ [last]) minute ∧
      ∀ pass ∈ front ++ [last], pass.1 < minute → ¬ alarm.DueAt pass.1) ↔
      (alarm.DueAt minute ∧ Sees front minute ∧ ∀ pass ∈ front, pass.1 < minute → ¬ alarm.DueAt pass.1) := by
  constructor
  · intro given
    obtain ⟨due, seen, first⟩ := given
    refine ⟨due, ?_, fun pass member => first pass (List.mem_append_left _ member)⟩
    rcases sees_concat.mp seen with inside | rfl
    · exact inside
    · -- an earlier due pass of the front cannot lie before the last one, so it reads the same minute
      obtain ⟨pass, member, dueThen⟩ := earlier
      have forward := orderly.initial.forward pass member
      have later := orderly.last_after member
      by_cases below : pass.1 < last.1
      · exact absurd dueThen (first pass (List.mem_append_left _ member) below)
      · exact ⟨pass, member, by omega⟩
  · intro given
    obtain ⟨due, seen, first⟩ := given
    refine ⟨due, sees_concat.mpr (Or.inl seen), ?_⟩
    intro pass member below
    rcases List.mem_append.mp member with inside | final
    · exact first pass inside below
    · obtain ⟨other, inside, rfl⟩ := seen
      have forward := orderly.initial.forward other inside
      have later := orderly.last_after inside
      rw [List.mem_singleton.mp final] at below
      omega

theorem ringsIn_of_one_time (clocked : alarm.Clocked) (once : alarm.oneTimeAlarm = true)
    (enabled : alarm.mEnabled = true) (fresh : alarm.mSignalled = false) (orderly : Orderly start passes)
    (minute : Nat) :
    Alarm.ringsIn minute alarm passes =
      if alarm.DueAt minute ∧ Sees passes minute ∧ ∀ pass ∈ passes, pass.1 < minute → ¬ alarm.DueAt pass.1
      then 1 else 0 := by
  induction passes using List.reverseRecOn with
  | nil => simp [Alarm.ringsIn, Sees]
  | append_singleton front last ih =>
    have state := after_of_one_time clocked once enabled fresh front
    rw [Alarm.ringsIn_concat, ih orderly.initial]
    by_cases earlier : ∃ pass ∈ front, alarm.DueAt pass.1
    · have quiet : ¬ (alarm.after front).fires (localTimeAt last.1) = true := by
        rw [after_fires_iff clocked, state.2 earlier]
        simp
      have silent : ¬ (last.1 = minute ∧ (alarm.after front).fires (localTimeAt last.1) = true) :=
        fun both => quiet both.2
      rw [if_neg silent, Nat.add_zero]
      exact if_congr (first_due_concat orderly earlier).symm rfl rfl
    · have none : ∀ pass ∈ front, ¬ alarm.DueAt pass.1 := fun pass member due => earlier ⟨pass, member, due⟩
      have zero : ¬ (alarm.DueAt minute ∧ Sees front minute ∧
          ∀ pass ∈ front, pass.1 < minute → ¬ alarm.DueAt pass.1) := by
        intro given
        obtain ⟨due, ⟨pass, member, rfl⟩, _⟩ := given
        exact none pass member due
      rw [if_neg zero, Nat.zero_add, state.1 none]
      refine if_congr ?_ rfl rfl
      constructor
      · intro given
        obtain ⟨rfl, fires⟩ := given
        refine ⟨((fires_iff clocked _).mp fires).2.1, sees_concat.mpr (Or.inr rfl), ?_⟩
        intro pass member below
        rcases List.mem_append.mp member with inside | final
        · exact none pass inside
        · rw [List.mem_singleton.mp final] at below
          omega
      · intro given
        obtain ⟨due, seen, _⟩ := given
        rcases sees_concat.mp seen with ⟨pass, member, rfl⟩ | rfl
        · exact absurd due (none pass member)
        · exact ⟨rfl, (fires_iff clocked _).mpr ⟨enabled, due, fresh⟩⟩

end

/-! ### The manager -/

abbrev Iteration := Nat → Pass

namespace AlarmManager

def iterate (m : AlarmManager) (iteration : Iteration) : AlarmManager :=
  (m.alarmThread fun i => readsAt (iteration i)).1

def calls (m : AlarmManager) (iteration : Iteration) : List Call :=
  (m.alarmThread fun i => readsAt (iteration i)).2

/-- How often a run calls `alarmNotify` on `o` for the alarm at index `i` in a minute. -/
def notifiedAt (minute i : Nat) (o : AlarmObserver) : AlarmManager → List Iteration → Nat
  | _, [] => 0
  | m, iteration :: rest =>
    (if (iteration i).1 = minute then (m.calls iteration).countP (Call.notifies i o) else 0) +
      notifiedAt minute i o (m.iterate iteration) rest

section
variable {m : AlarmManager} {i : Nat} {alarm : Alarm}

theorem run_free (free : m.mCurrentEditor = "") (iterations : List Iteration) :
    (run iterate m iterations).mCurrentEditor = "" := by
  have keep : ∀ (s : AlarmManager) (iteration : Iteration), s.mCurrentEditor = "" →
      (s.iterate iteration).mCurrentEditor = "" := by
    intro s iteration same
    rw [iterate, alarmThread_mCurrentEditor, same]
  exact run_invariant keep free

theorem run_observers (iterations : List Iteration) :
    (run iterate m iterations).mAlarmObservers = m.mAlarmObservers := by
  have keep : ∀ (s : AlarmManager) (iteration : Iteration), s.mAlarmObservers = m.mAlarmObservers →
      (s.iterate iteration).mAlarmObservers = m.mAlarmObservers := by
    intro s iteration same
    rw [iterate, alarmThread_mAlarmObservers, same]
  exact run_invariant keep rfl

theorem run_length (free : m.mCurrentEditor = "") (iterations : List Iteration) :
    (run iterate m iterations).mAlarmList.length = m.mAlarmList.length := by
  induction iterations using List.reverseRecOn with
  | nil => rfl
  | append_singleton front last ih =>
    rw [run_concat, iterate, alarmThread_mAlarmList (run_free free front), List.length_mapIdx, ih]

theorem run_alarm (free : m.mCurrentEditor = "") (found : m.mAlarmList[i]? = some alarm)
    (iterations : List Iteration) :
    (run iterate m iterations).mAlarmList[i]? = some (alarm.after (iterations.map (· i))) := by
  induction iterations using List.reverseRecOn with
  | nil => exact found
  | append_singleton front last ih =>
    rw [run_concat, iterate, alarmThread_alarm (run_free free front), ih, List.map_append, List.map_singleton,
      Alarm.after_concat]
    rfl

theorem notifiedAt_concat (minute i : Nat) (o : AlarmObserver) (m : AlarmManager) (front : List Iteration)
    (last : Iteration) :
    notifiedAt minute i o m (front ++ [last]) = notifiedAt minute i o m front +
      if (last i).1 = minute then ((run iterate m front).calls last).countP (Call.notifies i o) else 0 := by
  induction front generalizing m with
  | nil =>
    rw [List.nil_append, notifiedAt, notifiedAt, notifiedAt, Nat.add_comm]
    rfl
  | cons first rest ih =>
    rw [List.cons_append, notifiedAt, ih, notifiedAt, Nat.add_assoc]
    rfl

theorem notifiedAt_eq (free : m.mCurrentEditor = "") (found : m.mAlarmList[i]? = some alarm)
    (minute : Nat) (o : AlarmObserver) (iterations : List Iteration) :
    notifiedAt minute i o m iterations =
      if alarm.reaches o = true ∧ o ∈ m.mAlarmObservers.inOrder
      then Alarm.ringsIn minute alarm (iterations.map (· i)) else 0 := by
  induction iterations using List.reverseRecOn with
  | nil => simp [notifiedAt, Alarm.ringsIn]
  | append_singleton front last ih =>
    rw [notifiedAt_concat, ih, List.map_append, List.map_singleton, Alarm.ringsIn_concat, calls,
      countP_alarmThread (run_free free front), run_alarm free found, run_observers]
    dsimp only
    rw [Alarm.after_reaches]
    by_cases reached : alarm.reaches o = true ∧ o ∈ m.mAlarmObservers.inOrder
    · obtain ⟨reaches, registered⟩ := reached
      by_cases here : (last i).1 = minute <;> simp [reaches, registered, here, readsAt]
    · have silent : ¬ ((alarm.after (front.map (· i))).fires (readsAt (last i)).first = true ∧
          alarm.reaches o = true ∧ o ∈ m.mAlarmObservers.inOrder) := fun all => reached all.2
      rw [if_neg reached, if_neg reached, if_neg silent, Nat.zero_add, ite_self]

end

end AlarmManager

def readSequence (size : Nat) (iterations : List Iteration) : List Nat :=
  iterations.flatMap fun iteration => (List.range size).flatMap fun i => [(iteration i).1, (iteration i).2]

/-- The alarm is enabled at the start of minute `minute`: a one-time alarm has not been due since
the run began. -/
def Alarm.StillSet (alarm : Alarm) (start minute : Nat) : Prop :=
  alarm.mEnabled = true ∧
    (alarm.oneTimeAlarm = true → ∀ earlier, start ≤ earlier → earlier < minute → ¬ alarm.DueAt earlier)

structure Watched (m : AlarmManager) (start : Nat) (iterations : List Iteration) : Prop where
  /-- The clock never goes back and never skips a minute. -/
  ticks : (start :: readSequence m.mAlarmList.length iterations).IsChain fun now next => now ≤ next ∧ next ≤ now + 1
  /-- No minute is passed over by the `minutesUntilFired` read of an alarm that makes one. -/
  seen : ∀ (i : Nat) (alarm : Alarm), m.mAlarmList[i]? = some alarm → ∀ iteration ∈ iterations, ∀ minute,
    start ≤ minute → minute < (iteration i).1 → alarm.StillSet start minute →
    Sees (iterations.map (· i)) minute

section
variable {m : AlarmManager} {start i minute : Nat} {alarm : Alarm} {iterations : List Iteration} {o : AlarmObserver}

theorem Watched.orderly (watched : Watched m start iterations) (found : m.mAlarmList[i]? = some alarm) :
    Orderly start (iterations.map (· i)) := by
  have inside : i < m.mAlarmList.length := (List.getElem?_eq_some_iff.mp found).1
  have mono := List.isChain_iff_pairwise.mp (watched.ticks.imp fun _ _ step => step.1)
  obtain ⟨begins, sequence⟩ := List.pairwise_cons.mp mono
  obtain ⟨_, across⟩ := List.pairwise_flatMap.mp sequence
  have among : ∀ iteration : Iteration, ∀ t ∈ [(iteration i).1, (iteration i).2],
      t ∈ (List.range m.mAlarmList.length).flatMap fun j => [(iteration j).1, (iteration j).2] :=
    fun iteration t member => List.mem_flatMap.mpr ⟨i, List.mem_range.mpr inside, member⟩
  have pair : ∀ iteration ∈ iterations, (iteration i).1 ≤ (iteration i).2 ∧ (iteration i).2 ≤ (iteration i).1 + 1 := by
    intro iteration member
    obtain ⟨front, back, inner⟩ :=
      List.infix_flatMap_of_mem (List.mem_range.mpr inside) fun j => [(iteration j).1, (iteration j).2]
    obtain ⟨first, rest, rfl⟩ := List.append_of_mem member
    have ticks := watched.ticks.tail
    rw [List.tail_cons, readSequence, List.flatMap_append, List.flatMap_cons, ← inner] at ticks
    exact (List.isChain_cons_cons.mp ticks.right_of_append.left_of_append.left_of_append.right_of_append).1
  refine ⟨?_, ?_, ?_, ?_⟩
  · intro pass member
    obtain ⟨iteration, present, rfl⟩ := List.mem_map.mp member
    exact begins _ (List.mem_flatMap.mpr ⟨iteration, present, among iteration _ (by simp)⟩)
  · intro pass member
    obtain ⟨iteration, present, rfl⟩ := List.mem_map.mp member
    exact (pair iteration present).1
  · intro pass member
    obtain ⟨iteration, present, rfl⟩ := List.mem_map.mp member
    exact (pair iteration present).2
  · rw [List.pairwise_map]
    exact across.imp fun ordered => ordered _ (among _ _ (by simp)) _ (among _ _ (by simp))

theorem Watched.sees_iff (watched : Watched m start iterations) (found : m.mAlarmList[i]? = some alarm)
    (still : alarm.StillSet start minute) :
    Sees (iterations.map (· i)) minute ↔ start ≤ minute ∧ ∃ iteration ∈ iterations, minute ≤ (iteration i).1 := by
  constructor
  · intro given
    obtain ⟨pass, member, rfl⟩ := given
    have begins := (watched.orderly found).begins pass member
    obtain ⟨iteration, present, rfl⟩ := List.mem_map.mp member
    exact ⟨begins, iteration, present, Nat.le_refl _⟩
  · intro given
    obtain ⟨begins, iteration, present, reached⟩ := given
    rcases Nat.lt_or_eq_of_le reached with below | same
    · exact watched.seen i alarm found iteration present minute begins below still
    · exact ⟨iteration i, List.mem_map_of_mem present, same.symm⟩

theorem Watched.first_due_iff (watched : Watched m start iterations) (found : m.mAlarmList[i]? = some alarm)
    (enabled : alarm.mEnabled = true) {reached : Iteration} (present : reached ∈ iterations)
    (at_least : minute ≤ (reached i).1) :
    (∀ pass ∈ iterations.map (· i), pass.1 < minute → ¬ alarm.DueAt pass.1) ↔
      ∀ earlier, start ≤ earlier → earlier < minute → ¬ alarm.DueAt earlier := by
  constructor
  · intro none earlier
    induction earlier using Nat.strong_induction_on with
    | _ earlier before =>
      intro begins below due
      have still : alarm.StillSet start earlier :=
        ⟨enabled, fun _ t first less => before t less first (Nat.lt_trans less below)⟩
      obtain ⟨pass, member, rfl⟩ := (watched.sees_iff found still).mpr ⟨begins, reached, present, by omega⟩
      exact none pass member below due
  · intro none pass member below
    exact none pass.1 ((watched.orderly found).begins pass member) below

/-- When the run rings the alarm at index `i` at an observer: the observer is registered and
meant, and the alarm is due in a minute that its reads have reached. -/
structure Rings (m : AlarmManager) (start : Nat) (iterations : List Iteration) (i : Nat) (alarm : Alarm)
    (o : AlarmObserver) (minute : Nat) : Prop where
  registered : o ∈ m.mAlarmObservers.inOrder
  meant : o.name = alarm.mUnit ∨ alarm.mUnit = ""
  still : alarm.StillSet start minute
  due : alarm.DueAt minute
  begun : start ≤ minute
  reached : ∃ iteration ∈ iterations, minute ≤ (iteration i).1

theorem reaches_iff : alarm.reaches o = true ↔ o.name = alarm.mUnit ∨ alarm.mUnit = "" := by
  simp [Alarm.reaches]

/-- An alarm that is not enabled stays so, and rings in no pass. -/
theorem silent_of_disabled (clocked : alarm.Clocked) (disabled : alarm.mEnabled ≠ true) (minute : Nat)
    (passes : List Pass) : (alarm.after passes).mEnabled = false ∧ Alarm.ringsIn minute alarm passes = 0 := by
  induction passes using List.reverseRecOn with
  | nil => exact ⟨Bool.eq_false_iff.mpr disabled, rfl⟩
  | append_singleton front last ih =>
    have quiet : ¬ (last.1 = minute ∧ (alarm.after front).fires (localTimeAt last.1) = true) := by
      rw [after_fires_iff clocked, ih.1]
      simp
    rw [Alarm.after_concat, Alarm.passed_mEnabled, ih.1, Alarm.ringsIn_concat, ih.2, if_neg quiet]
    exact ⟨rfl, rfl⟩

theorem ringsIn_iff (watched : Watched m start iterations) (found : m.mAlarmList[i]? = some alarm)
    (clocked : alarm.Clocked) (fresh : alarm.mSignalled = false) (minute : Nat) :
    ((alarm.StillSet start minute ∧ alarm.DueAt minute ∧ start ≤ minute ∧
        ∃ iteration ∈ iterations, minute ≤ (iteration i).1) →
      Alarm.ringsIn minute alarm (iterations.map (· i)) = 1) ∧
    (¬ (alarm.StillSet start minute ∧ alarm.DueAt minute ∧ start ≤ minute ∧
        ∃ iteration ∈ iterations, minute ≤ (iteration i).1) →
      Alarm.ringsIn minute alarm (iterations.map (· i)) = 0) := by
  have orderly := watched.orderly found
  by_cases enabled : alarm.mEnabled = true
  · cases once : alarm.oneTimeAlarm with
    | false =>
      have still : ∀ t, alarm.StillSet start t := fun t => ⟨enabled, fun yes => by rw [once] at yes; cases yes⟩
      have covered : ∀ pass ∈ iterations.map (· i), ∀ t, start ≤ t → t < pass.1 → Sees (iterations.map (· i)) t := by
        intro pass member t begins below
        obtain ⟨iteration, present, rfl⟩ := List.mem_map.mp member
        exact watched.seen i alarm found iteration present t begins below (still t)
      rw [ringsIn_of_daily clocked once enabled fresh orderly covered]
      have seen := watched.sees_iff found (still minute)
      constructor
      · intro given
        obtain ⟨_, due, reached⟩ := given
        rw [if_pos ⟨due, seen.mpr reached⟩]
      · intro no
        rw [if_neg fun ⟨due, yes⟩ => no ⟨still minute, due, seen.mp yes⟩]
    | true =>
      rw [ringsIn_of_one_time clocked once enabled fresh orderly]
      constructor
      · intro given
        obtain ⟨still, due, begins, iteration, present, reached⟩ := given
        refine if_pos ⟨due, (watched.sees_iff found still).mpr ⟨begins, iteration, present, reached⟩, ?_⟩
        exact (watched.first_due_iff found enabled present reached).mpr (still.2 once)
      · intro no
        apply if_neg
        intro given
        obtain ⟨due, ⟨pass, member, read⟩, first⟩ := given
        have begins := orderly.begins pass member
        obtain ⟨iteration, present, rfl⟩ := List.mem_map.mp member
        have reached : minute ≤ (iteration i).1 := Nat.le_of_eq read.symm
        have none := (watched.first_due_iff found enabled present reached).mp first
        exact no ⟨⟨enabled, fun _ => none⟩, due, by omega, iteration, present, reached⟩
  · refine ⟨fun given => absurd given.1.1 enabled, fun _ => ?_⟩
    exact (silent_of_disabled clocked enabled minute _).2

/-- In every run without an editor an alarm is notified to an observer exactly once in each
minute in which it rings there, and never otherwise; a one-time alarm is disabled, and the file
written, in the iteration that notifies. -/
theorem rings_exactly_once (free : m.mCurrentEditor = "") (clocked : ∀ a ∈ m.mAlarmList, a.Clocked)
    (fresh : ∀ a ∈ m.mAlarmList, a.mSignalled = false) (watched : Watched m start iterations)
    (found : m.mAlarmList[i]? = some alarm) (o : AlarmObserver) :
    (∀ minute,
      (Rings m start iterations i alarm o minute → m.notifiedAt minute i o iterations = 1) ∧
      (¬ Rings m start iterations i alarm o minute → m.notifiedAt minute i o iterations = 0)) ∧
    (alarm.oneTimeAlarm = true → ∀ before iteration later, iterations = before ++ iteration :: later →
      0 < ((run AlarmManager.iterate m before).calls iteration).countP (Call.notifies i o) →
      ∃ disabled, (run AlarmManager.iterate m (before ++ [iteration])).mAlarmList[i]? = some disabled ∧
        disabled.mEnabled = false ∧
        (run AlarmManager.iterate m (before ++ [iteration])).mAlarmFile =
          some (saveDocument (run AlarmManager.iterate m (before ++ [iteration])).mAlarmList)) := by
  have present : alarm ∈ m.mAlarmList := List.mem_of_getElem? found
  constructor
  · intro minute
    obtain ⟨once, never⟩ := ringsIn_iff watched found (clocked alarm present) (fresh alarm present) minute
    rw [AlarmManager.notifiedAt_eq free found]
    constructor
    · intro rings
      rw [if_pos ⟨reaches_iff.mpr rings.meant, rings.registered⟩]
      exact once ⟨rings.still, rings.due, rings.begun, rings.reached⟩
    · intro silent
      by_cases reached : alarm.reaches o = true ∧ o ∈ m.mAlarmObservers.inOrder
      · rw [if_pos reached]
        refine never fun ⟨still, due, begun, got⟩ => silent ?_
        exact ⟨reached.2, reaches_iff.mp reached.1, still, due, begun, got⟩
      · exact if_neg reached
  · intro once before iteration later _ notified
    have freeThen := AlarmManager.run_free free before
    have foundThen := AlarmManager.run_alarm free found before
    have fires : (alarm.after (before.map (· i))).fires (readsAt (iteration i)).first = true := by
      rw [AlarmManager.calls, AlarmManager.countP_alarmThread freeThen, foundThen] at notified
      by_contra quiet
      simp [quiet] at notified
    have onceThen := (Alarm.after_oneTimeAlarm alarm (before.map (· i))).trans once
    refine ⟨_, AlarmManager.run_alarm free found (before ++ [iteration]), ?_, ?_⟩
    · rw [List.map_append, List.map_singleton, Alarm.after_concat, Alarm.passed_mEnabled, fires, onceThen]
      simp
    · rw [run_concat]
      exact AlarmManager.alarmThread_saves freeThen foundThen fires onceThen

end

def bedroomObserver : AlarmObserver := ⟨0, "Bedroom"⟩

def bedroom : AlarmManager where
  mUnitList := ["Bedroom"]
  mAlarmList := [{ mHour := 0, mMinutes := 1, mDays := 1 }]
  mAlarmObservers := ⟨[bedroomObserver], by decide⟩

/-- Minutes 0 to 2; the second read of the second and of the fourth iteration is in the next minute. -/
def sundayNight : List Iteration :=
  [fun _ => (0, 0), fun _ => (0, 1), fun _ => (1, 1), fun _ => (1, 2), fun _ => (2, 2)]

theorem sundayNight_watched : Watched bedroom 0 sundayNight where
  ticks := by
    have reads : readSequence bedroom.mAlarmList.length sundayNight = [0, 0, 0, 1, 1, 1, 1, 2, 2, 2] := by decide
    rw [reads]
    decide
  seen := by
    intro i alarm found iteration member minute begins below still
    have passes : sundayNight.map (· i) = [(0, 0), (0, 1), (1, 1), (1, 2), (2, 2)] := rfl
    have bound : (iteration i).1 ≤ 2 := by
      have read := List.mem_map_of_mem (f := (· i)) member
      rw [passes] at read
      simp only [List.mem_cons, List.not_mem_nil, or_false] at read
      rcases read with read | read | read | read | read <;> rw [read] <;> decide
    have minutes : minute = 0 ∨ minute = 1 := by omega
    rw [passes]
    rcases minutes with rfl | rfl <;> decide

theorem bedroom_rings_on_sunday :
    Watched bedroom 0 sundayNight ∧ bedroom.notifiedAt 1 0 bedroomObserver sundayNight = 1 := by
  refine ⟨sundayNight_watched, ?_⟩
  have clocked : ∀ a ∈ bedroom.mAlarmList, a.Clocked := by decide
  have fresh : ∀ a ∈ bedroom.mAlarmList, a.mSignalled = false := by decide
  have rings : Rings bedroom 0 sundayNight 0 { mHour := 0, mMinutes := 1, mDays := 1 } bedroomObserver 1 :=
    { registered := by decide
      meant := Or.inr rfl
      still := ⟨rfl, fun once => absurd once (by decide)⟩
      due := by decide
      begun := by decide
      reached := ⟨fun _ => (2, 2), by simp [sundayNight], by decide⟩ }
  exact ((rings_exactly_once rfl clocked fresh sundayNight_watched rfl bedroomObserver).1 1).1 rings

end RgbClock.Alarms
