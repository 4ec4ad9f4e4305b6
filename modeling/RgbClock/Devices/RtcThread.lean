import Mathlib.Data.Rat.Defs
import RgbClock.Devices.Rtc
import RgbClock.Lib.Run

/-! The thread of `RTC`, which looks every ten seconds whether the system has the time from the network, and now and then
stores that time in the chip. It counts the seconds since it last meant to, and starts again whether it then could or not. -/

namespace RgbClock.Devices
open Runs

def NTP_INTERVAL_SECONDS : Nat := 10

/-! ### What `ntpq` prints -/

/-- The columns of a line, as `getline` finds them between spaces. -/
def ntpColumns (line : List Char) : List (List Char) := (line.splitOn ' ').filter fun cell => cell.length > 0

section
-- `input >> delay`, none if there is no number
variable (delayOf : List Char → Option ℚ)

/-- A line decides if it begins with a star and has more than seven columns. -/
def ntpLine (line : List Char) : Option Bool :=
  if line.head? = some '*' then
    match (ntpColumns line)[7]? with
    | some cell =>
      let delay := (delayOf cell).getD 0
      some (decide (delay > 5 ∧ delay < 100))
    | none => none
  else none

def ntpSynchronized (ntpStatus : List Char) : Bool := ((ntpStatus.splitOn '\n').findSome? (ntpLine delayOf)).getD false

end

/-! ### The thread -/

/-- What a pass finds: the output of `ntpq -p`, the time, and what the chip sends. -/
structure RtcPass where
  ntpStatus : List Char
  time : Nat
  response : Vector UInt8 8

inductive RtcAccess where
  | readRTCTime (rtcTime : Tm)
  | writeRTCTime (rtcData : List UInt8)
  deriving DecidableEq

structure RtcThread where
  mNTPSync : Bool := false
  secondsInterval : Nat := 1 * 60
  secondsPassed : Nat := 0
  deriving DecidableEq

namespace RtcThread

variable (delayOf : List Char → Option ℚ)

/-- One pass of `rtcThread`, with its accesses to the chip. The time that is read is only tested for the log. -/
def rtcThread (s : RtcThread) (pass : RtcPass) : RtcThread × List RtcAccess :=
  let secondsPassed := s.secondsPassed + NTP_INTERVAL_SECONDS
  let mNTPSync := ntpSynchronized delayOf pass.ntpStatus
  if secondsPassed > s.secondsInterval then
    if mNTPSync then
      (⟨mNTPSync, 3 * 24 * 60 * 60, 0⟩,
        [.readRTCTime (readRTCTime pass.response), .writeRTCTime (writeRTCTime pass.time)])
    else (⟨mNTPSync, s.secondsInterval, 0⟩, [])
  else (⟨mNTPSync, s.secondsInterval, secondsPassed⟩, [])

def step (s : RtcThread) (pass : RtcPass) : RtcThread := (s.rtcThread delayOf pass).1

/-! ### Which passes write -/

/-- The passes between two attempts, as long as nothing has been written and after that. -/
def FIRST_PASSES : Nat := 7
def LATER_PASSES : Nat := 25921

/-- The pass with this number, from 0 on, finds the system synchronised. -/
def Synced (passes : List RtcPass) (n : Nat) : Prop :=
  (passes[n]?.any fun pass => ntpSynchronized delayOf pass.ntpStatus) = true

instance (passes : List RtcPass) (n : Nat) : Decidable (Synced delayOf passes n) := inferInstanceAs (Decidable (_ = _))

/-- The first of every seventh passes that finds it synchronised. -/
def FirstWrite (passes : List RtcPass) (n : Nat) : Prop :=
  FIRST_PASSES ∣ n + 1 ∧ Synced delayOf passes n ∧ ∀ k < n, FIRST_PASSES ∣ k + 1 → ¬ Synced delayOf passes k

/-- The first write, or a later one on the beat of the first. -/
def Writes (passes : List RtcPass) (n : Nat) : Prop :=
  FirstWrite delayOf passes n ∨
    Synced delayOf passes n ∧ ∃ first < n, FirstWrite delayOf passes first ∧ LATER_PASSES ∣ n - first

structure Paced (passes : List RtcPass) (n : Nat) (s : RtcThread) : Prop where
  waiting : (∀ k < n, FIRST_PASSES ∣ k + 1 → ¬ Synced delayOf passes k) →
    s.secondsInterval = 60 ∧ s.secondsPassed = n % FIRST_PASSES * NTP_INTERVAL_SECONDS
  written : ∀ first < n, FirstWrite delayOf passes first →
    s.secondsInterval = 259200 ∧ s.secondsPassed = (n - (first + 1)) % LATER_PASSES * NTP_INTERVAL_SECONDS

variable {delayOf} {passes : List RtcPass} {n : Nat} {s : RtcThread} {pass : RtcPass}

theorem synced_iff (found : passes[n]? = some pass) :
    Synced delayOf passes n ↔ ntpSynchronized delayOf pass.ntpStatus = true := by
  rw [Synced, found]
  rfl

/-- Before the `n`-th pass there was a first write, or no pass could have been it. -/
theorem waiting_or_written (delayOf : List Char → Option ℚ) (passes : List RtcPass) (n : Nat) :
    (∀ k < n, FIRST_PASSES ∣ k + 1 → ¬ Synced delayOf passes k) ∨ ∃ first < n, FirstWrite delayOf passes first := by
  induction n with
  | zero => exact .inl fun k below => absurd below (Nat.not_lt_zero k)
  | succ n ih =>
    rcases ih with waiting | ⟨first, before, isFirst⟩
    · by_cases now : FIRST_PASSES ∣ n + 1 ∧ Synced delayOf passes n
      · exact .inr ⟨n, Nat.lt_succ_self n, now.1, now.2, waiting⟩
      · refine .inl fun k below due synced => ?_
        rcases Nat.lt_succ_iff_lt_or_eq.mp below with before | rfl
        · exact waiting k before due synced
        · exact now ⟨due, synced⟩
    · exact .inr ⟨first, Nat.lt_succ_of_lt before, isFirst⟩

theorem firstWrite_unique {first other : Nat} (one : FirstWrite delayOf passes first)
    (two : FirstWrite delayOf passes other) : first = other := by
  rcases Nat.lt_trichotomy first other with less | same | more
  · exact absurd one.2.1 (two.2.2 first less one.1)
  · exact same
  · exact absurd two.2.1 (one.2.2 other more two.1)

/-- The attempts of a waiting thread come with every seventh pass. -/
theorem attempts_waiting (interval : s.secondsInterval = 60)
    (passed : s.secondsPassed = n % FIRST_PASSES * NTP_INTERVAL_SECONDS) :
    s.secondsPassed + NTP_INTERVAL_SECONDS > s.secondsInterval ↔ FIRST_PASSES ∣ n + 1 := by
  rw [interval, passed]
  simp only [FIRST_PASSES, NTP_INTERVAL_SECONDS]
  omega

theorem attempts_written {first : Nat} (before : first < n) (interval : s.secondsInterval = 259200)
    (passed : s.secondsPassed = (n - (first + 1)) % LATER_PASSES * NTP_INTERVAL_SECONDS) :
    s.secondsPassed + NTP_INTERVAL_SECONDS > s.secondsInterval ↔ LATER_PASSES ∣ n - first := by
  rw [interval, passed]
  simp only [LATER_PASSES, NTP_INTERVAL_SECONDS]
  omega

theorem paced_start (passes : List RtcPass) : Paced delayOf passes 0 {} :=
  ⟨fun _ => ⟨rfl, rfl⟩, fun first below => absurd below (Nat.not_lt_zero first)⟩

theorem Paced.step (paced : Paced delayOf passes n s) (found : passes[n]? = some pass) :
    Paced delayOf passes (n + 1) (s.step delayOf pass) := by
  have sync := @synced_iff delayOf _ _ _ found
  unfold RtcThread.step RtcThread.rtcThread
  constructor
  · intro waiting
    obtain ⟨interval, passed⟩ := paced.waiting fun k below => waiting k (Nat.lt_succ_of_lt below)
    have attempt := attempts_waiting interval passed
    dsimp only
    split
    · rename_i due
      have missed : ¬ ntpSynchronized delayOf pass.ntpStatus = true :=
        fun now => waiting n (Nat.lt_succ_self n) (attempt.mp due) (sync.mpr now)
      rw [if_neg missed]
      refine ⟨interval, ?_⟩
      rw [Nat.mod_eq_zero_of_dvd (attempt.mp due), Nat.zero_mul]
    · rename_i early
      refine ⟨interval, ?_⟩
      rw [attempt] at early
      simp only [passed, FIRST_PASSES, NTP_INTERVAL_SECONDS] at early ⊢
      omega
  · intro first below isFirst
    rcases Nat.lt_succ_iff_lt_or_eq.mp below with before | rfl
    · obtain ⟨interval, passed⟩ := paced.written first before isFirst
      have attempt := attempts_written before interval passed
      dsimp only
      split
      · rename_i due
        have beat : (n + 1 - (first + 1)) % LATER_PASSES * NTP_INTERVAL_SECONDS = 0 := by
          rw [Nat.add_sub_add_right, Nat.mod_eq_zero_of_dvd (attempt.mp due), Nat.zero_mul]
        rw [beat]
        -- whether it writes or not, the interval is that of three days and the count starts again
        split
        · exact ⟨rfl, rfl⟩
        · exact ⟨interval, rfl⟩
      · rename_i early
        refine ⟨interval, ?_⟩
        rw [attempt] at early
        simp only [passed, LATER_PASSES, NTP_INTERVAL_SECONDS] at early ⊢
        omega
    · -- this pass is the first write
      obtain ⟨interval, passed⟩ := paced.waiting isFirst.2.2
      dsimp only
      rw [if_pos ((attempts_waiting interval passed).mpr isFirst.1), if_pos (sync.mp isFirst.2.1), Nat.sub_self]
      exact ⟨rfl, rfl⟩

theorem paced_at (delayOf : List Char → Option ℚ) (passes : List RtcPass) (n : Nat) (inside : n ≤ passes.length) :
    Paced delayOf passes n (stateAt (RtcThread.step delayOf) {} passes n) := by
  induction n with
  | zero => exact paced_start passes
  | succ n ih =>
    have found : passes[n]? = some passes[n] := List.getElem?_eq_getElem inside
    rw [stateAt_succ found]
    exact (ih (Nat.le_of_succ_le inside)).step found

/-- A pass that makes an attempt reads the chip and writes the time if it is synchronised. -/
theorem rtcThread_accesses (s : RtcThread) (pass : RtcPass) :
    (s.rtcThread delayOf pass).2 =
      if s.secondsPassed + NTP_INTERVAL_SECONDS > s.secondsInterval ∧ ntpSynchronized delayOf pass.ntpStatus = true then
        [.readRTCTime (readRTCTime pass.response), .writeRTCTime (writeRTCTime pass.time)]
      else [] := by
  unfold rtcThread
  dsimp only
  split
  · rename_i due
    split
    · rename_i sync
      rw [if_pos ⟨due, sync⟩]
    · rename_i missed
      rw [if_neg fun both => missed both.2]
  · rename_i early
    rw [if_neg fun both => early both.1]

/-- An attempt that finds the system synchronised is the first write or a later one. -/
theorem Paced.writes_iff (paced : Paced delayOf passes n s) :
    s.secondsPassed + NTP_INTERVAL_SECONDS > s.secondsInterval ∧ Synced delayOf passes n ↔ Writes delayOf passes n := by
  rcases waiting_or_written delayOf passes n with waiting | ⟨first, before, isFirst⟩
  · obtain ⟨interval, passed⟩ := paced.waiting waiting
    rw [attempts_waiting interval passed]
    constructor
    · rintro ⟨beat, synced⟩
      exact .inl ⟨beat, synced, waiting⟩
    · rintro (⟨beat, synced, _⟩ | ⟨_, first, before, isFirst, _⟩)
      · exact ⟨beat, synced⟩
      · exact absurd isFirst.2.1 (waiting first before isFirst.1)
  · obtain ⟨interval, passed⟩ := paced.written first before isFirst
    rw [attempts_written before interval passed]
    constructor
    · rintro ⟨beat, synced⟩
      exact .inr ⟨synced, first, before, isFirst, beat⟩
    · rintro (now | ⟨synced, other, _, isOther, beat⟩)
      · exact absurd (firstWrite_unique now isFirst) (Nat.ne_of_gt before)
      · rw [firstWrite_unique isFirst isOther]
        exact ⟨beat, synced⟩

/-- The chip is read and written in exactly these passes: first in the first of every seventh passes that finds the
system synchronised, so never within the first minute, and from then on in every 25921st pass, a little over three days
apart, that finds it so. -/
theorem rtc_written_on_schedule (delayOf : List Char → Option ℚ) (passes : List RtcPass) (n : Fin passes.length) :
    (Writes delayOf passes n → ((stateAt (RtcThread.step delayOf) {} passes n).rtcThread delayOf passes[n]).2 =
        [.readRTCTime (readRTCTime passes[n].response), .writeRTCTime (writeRTCTime passes[n].time)]) ∧
      (¬ Writes delayOf passes n →
        ((stateAt (RtcThread.step delayOf) {} passes n).rtcThread delayOf passes[n]).2 = []) := by
  have found : passes[n.val]? = some passes[n] := List.getElem?_eq_getElem n.isLt
  have due := (paced_at delayOf passes n n.isLt.le).writes_iff
  rw [synced_iff found] at due
  rw [rtcThread_accesses]
  exact ⟨fun writes => if_pos (due.mpr writes), fun silent => if_neg (silent ∘ due.mp)⟩

end RtcThread

end RgbClock.Devices
