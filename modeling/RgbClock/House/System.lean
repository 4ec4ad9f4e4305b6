import RgbClock.Units.Power
import RgbClock.Lib.Slots

/-! The whole system: units that come and go, the alarm manager and the receiver they share, and
the events that drive them. Each event is one atomic step. -/

open RgbClock.Keys RgbClock.Alarms RgbClock.Devices RgbClock.Units Slots

namespace RgbClock

structure House extends Home where
  mAlarmManager : AlarmManager

/-- The steps of the program: the two loops of `main`, the keyboard worker of a unit calling one
of its observers, the threads of a unit, and the alarm thread. -/
inductive Event where
  | attach (unitName : String) (place : Nat)
  | detach (unit : Nat)
  | registerLight (unit : Nat) (light : Light)
  | unRegisterLight (unit : Nat)
  | clockKeys (unit : Nat) (info : KeyboardInfo)
  | displayKeys (unit : Nat) (info : KeyboardInfo)
  | refresh (unit : Nat)
  | own (step : Step)
  | iterate (reads : Nat → Reads)

def callStep : Call → Step
  | .alarmNotify _ observer volume smooth => ⟨observer.id, .alarmNotify volume smooth⟩
  | .alarmSnooze observer => ⟨observer.id, .alarmSnooze⟩
  | .alarmOff observer => ⟨observer.id, .alarmOff⟩

namespace House

def boot (mUnitList : List String) (alarms : List Alarm) (file : Option XMLDocument) : House where
  units := []
  mAlarmManager := { mUnitList, mAlarmList := alarms, mAlarmFile := file }

def live (h : House) (k : Nat) : Option AlarmClock := h.units[k]?.filter (·.alive)

def named (h : House) (unitName : String) : Bool := h.units.any fun c => c.alive && c.name = unitName

/-- A unit whose keyboard answers is started if no unit of that name is. -/
def attach (h : House) (unitName : String) (place : Nat) : House :=
  if h.named unitName then h
  else
    { h with
      units := h.units ++ [.create h.units.length unitName]
      mAlarmManager := h.mAlarmManager.registerAlarmObserver ⟨h.units.length, unitName⟩ place }

def detach (h : House) (k : Nat) : House :=
  match h.live k with
  | some c =>
    let (gone, manager, receiver) := c.destroy h.mAlarmManager h.mDabReceiver
    { units := h.units.set k gone, mAlarmManager := manager, mDabReceiver := receiver }
  | none => h

def changeUnit (h : House) (k : Nat) (change : AlarmClock → AlarmClock) : House :=
  match h.live k with
  | some c => { h with units := h.units.set k (change c) }
  | none => h

def clockKeys (h : House) (k : Nat) (info : KeyboardInfo) : House :=
  match h.live k with
  | some c => { h with mAlarmManager := c.keyboardPressed h.mAlarmManager info }
  | none => h

def onDesk (h : House) (k : Nat) (step : Desk → Desk) : House :=
  match h.live k with
  | some c =>
    let desk := step ⟨c.mDisplay, c.mKeyboard, h.mAlarmManager⟩
    { h with
      units := h.units.set k { c with mDisplay := desk.mDisplay, mKeyboard := desk.mKeyboard }
      mAlarmManager := desk.mAlarmManager }
  | none => h

/-- A thread or a key of a unit. The maintenance thread goes on after the unit is destroyed. -/
def own (h : House) (step : Step) : House :=
  match h.units[step.unit]? with
  | some c =>
    if (c.alive || (c.mAlarmMaintenanceThreadRunning && step.handler.maintains)) &&
        !step.handler.called then
      { h with toHome := h.toHome.handle step }
    else h
  | none => h

def iterate (h : House) (reads : Nat → Reads) : House where
  toHome := ((h.mAlarmManager.alarmThread reads).2.map callStep).foldl Home.handle h.toHome
  mAlarmManager := (h.mAlarmManager.alarmThread reads).1

def step (h : House) : Event → House
  | .attach unitName place => h.attach unitName place
  | .detach k => h.detach k
  | .registerLight k light => h.changeUnit k (·.registerLight light)
  | .unRegisterLight k => h.changeUnit k (·.unRegisterLight)
  | .clockKeys k info => h.clockKeys k info
  | .displayKeys k info => h.onDesk k (·.keyboardPressed info)
  | .refresh k => h.onDesk k (·.refreshThread)
  | .own step => h.own step
  | .iterate reads => h.iterate reads

end House

/-! ### Steps that leave the displays alone -/

structure SameDesk (c c' : AlarmClock) : Prop where
  id : c'.id = c.id
  alive : c'.alive = c.alive
  display : c'.mDisplay.signalClockState .clkNormal = c.mDisplay.signalClockState .clkNormal

namespace SameDesk
variable {c c' c'' : AlarmClock}

theorem refl (c : AlarmClock) : SameDesk c c := ⟨rfl, rfl, rfl⟩

theorem trans (first : SameDesk c c') (second : SameDesk c' c'') : SameDesk c c'' :=
  ⟨second.id.trans first.id, second.alive.trans first.alive, second.display.trans first.display⟩

theorem name (same : SameDesk c c') : c'.name = c.name := by
  have names := congrArg ClockDisplay.mUnitName same.display
  exact names

theorem state (same : SameDesk c c') : c'.mDisplay.mDisplayState = c.mDisplay.mDisplayState := by
  have states := congrArg ClockDisplay.mDisplayState same.display
  exact states

end SameDesk

theorem alarmMaintenanceThread_sameDesk (c : AlarmClock) (dab : DABReceiver) :
    SameDesk c (c.alarmMaintenanceThread dab).1 := by
  unfold AlarmClock.alarmMaintenanceThread
  dsimp only
  split <;> split <;> (try split) <;> exact ⟨rfl, rfl, rfl⟩

theorem handle_sameDesk (c : AlarmClock) (dab : DABReceiver) (handler : Handler) :
    SameDesk c (c.handle dab handler).1 := by
  cases handler with
  | alarmNotify volume smooth =>
    rw [AlarmClock.handle, AlarmClock.alarmNotify_eq]
    exact ⟨rfl, rfl, rfl⟩
  | alarmSnooze =>
    simp only [AlarmClock.handle, AlarmClock.alarmSnooze]
    split <;> exact ⟨rfl, rfl, rfl⟩
  | maintenance =>
    simp only [AlarmClock.handle, AlarmClock.tick]
    split
    · exact alarmMaintenanceThread_sameDesk c dab
    · exact SameDesk.refl c
  | alarmOff | radioKeys | radioAutoOff | radioDimmer | lightKeys | lightAutoOff | lightDimmer => exact ⟨rfl, rfl, rfl⟩

theorem Home.handle_each {R : AlarmClock → AlarmClock → Prop} (reflexive : ∀ c, R c c)
    (one : ∀ c dab handler, R c (c.handle dab handler).1) (h : Home) (step : Step) :
    Each R h.units (h.handle step).units := by
  unfold Home.handle
  cases found : h.units[step.unit]? with
  | none => exact Each.refl reflexive _
  | some c => exact Each.set reflexive found (one _ _ _)

theorem Home.foldl_handle_each {R : AlarmClock → AlarmClock → Prop} (reflexive : ∀ c, R c c)
    (transitive : ∀ a b c, R a b → R b c → R a c) (one : ∀ c dab handler, R c (c.handle dab handler).1)
    (h : Home) (steps : List Step) : Each R h.units (steps.foldl Home.handle h).units :=
  each_foldl reflexive transitive (Home.handle_each reflexive one) h steps

/-! ### One unit through a sequence of handlers -/

section
variable {P Q : AlarmClock → Prop} {u : Nat}

theorem Home.handle_keeps {h : Home} {step : Step}
    (keep : step.unit = u → ∀ c dab, h.units[u]? = some c → Q c → Q (c.handle dab step.handler).1)
    (start : ∃ c, h.units[u]? = some c ∧ Q c) : ∃ c, (h.handle step).units[u]? = some c ∧ Q c := by
  obtain ⟨c, found, holds⟩ := start
  unfold Home.handle
  by_cases mine : step.unit = u
  · rw [mine, found]
    exact ⟨_, List.getElem?_set_self (List.getElem?_eq_some_iff.mp found).1, keep mine c _ found holds⟩
  · cases h.units[step.unit]? with
    | none => exact ⟨c, found, holds⟩
    | some d => exact ⟨c, by rw [List.getElem?_set_ne mine, found], holds⟩

theorem Home.foldl_keeps {h : Home} {steps : List Step}
    (keep : ∀ step ∈ steps, step.unit = u → ∀ c dab, Q c → Q (c.handle dab step.handler).1)
    (start : ∃ c, h.units[u]? = some c ∧ Q c) : ∃ c, (steps.foldl Home.handle h).units[u]? = some c ∧ Q c := by
  induction steps generalizing h with
  | nil => exact start
  | cons step rest ih =>
    have first := Home.handle_keeps (fun mine c dab _ => keep step List.mem_cons_self mine c dab) start
    exact ih (fun later member => keep later (List.mem_cons_of_mem _ member)) first

/-- The handlers of a unit turn it from one condition to another, if there is at least one of them. -/
theorem Home.foldl_turns {h : Home} {steps : List Step}
    (turn : ∀ step ∈ steps, step.unit = u → ∀ c dab, P c ∨ Q c → Q (c.handle dab step.handler).1)
    (reached : ∃ step ∈ steps, step.unit = u) (start : ∃ c, h.units[u]? = some c ∧ P c) :
    ∃ c, (steps.foldl Home.handle h).units[u]? = some c ∧ Q c := by
  induction steps generalizing h with
  | nil =>
    obtain ⟨step, member, -⟩ := reached
    cases member
  | cons step rest ih =>
    by_cases mine : step.unit = u
    · obtain ⟨c, found, holds⟩ := start
      have keep : ∀ later ∈ rest, later.unit = u → ∀ c dab, Q c → Q (c.handle dab later.handler).1 :=
        fun later member same c dab holds => turn later (List.mem_cons_of_mem _ member) same c dab (Or.inr holds)
      have turned : ∃ c, (h.handle step).units[u]? = some c ∧ Q c := by
        unfold Home.handle
        rw [mine, found]
        refine ⟨_, List.getElem?_set_self (List.getElem?_eq_some_iff.mp found).1, ?_⟩
        exact turn step List.mem_cons_self mine c _ (Or.inl holds)
      rw [List.foldl_cons]
      exact Home.foldl_keeps keep turned
    · obtain ⟨later, member, same⟩ := reached
      rcases List.mem_cons.mp member with rfl | behind
      · exact absurd same mine
      · refine ih (fun step member => turn step (List.mem_cons_of_mem _ member)) ⟨later, behind, same⟩ ?_
        exact Home.handle_keeps (fun equal => absurd equal mine) start

end

namespace House

theorem live_eq_some {h : House} {k : Nat} {c : AlarmClock} :
    h.live k = some c ↔ h.units[k]? = some c ∧ c.alive = true := by
  unfold live
  rw [Option.filter_eq_some_iff]

theorem sameDesk_trans (a b c : AlarmClock) (first : SameDesk a b) (second : SameDesk b c) : SameDesk a c :=
  first.trans second

theorem changeUnit_sameDesk (h : House) (k : Nat) {change : AlarmClock → AlarmClock}
    (same : ∀ c, SameDesk c (change c)) : Each SameDesk h.units (h.changeUnit k change).units := by
  unfold changeUnit
  cases found : h.live k with
  | none => exact Each.refl SameDesk.refl _
  | some c => exact Each.set SameDesk.refl (live_eq_some.mp found).1 (same c)

theorem own_sameDesk (h : House) (step : Step) : Each SameDesk h.units (h.own step).units := by
  unfold own
  split
  · split
    · exact Home.handle_each SameDesk.refl handle_sameDesk _ _
    · exact Each.refl SameDesk.refl _
  · exact Each.refl SameDesk.refl _

theorem iterate_sameDesk (h : House) (reads : Nat → Reads) : Each SameDesk h.units (h.iterate reads).units :=
  Home.foldl_handle_each SameDesk.refl sameDesk_trans handle_sameDesk _ _

@[simp] theorem changeUnit_mAlarmManager (h : House) (k : Nat) (change : AlarmClock → AlarmClock) :
    (h.changeUnit k change).mAlarmManager = h.mAlarmManager := by
  unfold changeUnit
  split <;> rfl

@[simp] theorem own_mAlarmManager (h : House) (step : Step) : (h.own step).mAlarmManager = h.mAlarmManager := by
  unfold own
  split
  · split <;> rfl
  · rfl

theorem clockKeys_units (h : House) (k : Nat) (info : KeyboardInfo) : (h.clockKeys k info).units = h.units := by
  unfold clockKeys
  split <;> rfl

end House

end RgbClock
