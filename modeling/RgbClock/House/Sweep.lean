import RgbClock.Lib.Iteration

/-! The loop of `main`. It starts the clock units and the lights whose chips answer and, ten seconds later, runs
through the started ones and erases those that are no longer attached. Each of the two clean-up loops moves its
iterator on after the entry it stands at may have been erased. -/

namespace RgbClock
open Std Iteration

/-- An `AlarmClock` as `main` knows it; a light is known by its address. -/
structure StartedUnit where
  mLight : Option Nat := none
  deriving DecidableEq

namespace StartedUnit

def hasRegisteredLight (unit : StartedUnit) : Bool := unit.mLight.isSome

def registerLight (unit : StartedUnit) (light : Nat) : StartedUnit := { unit with mLight := some light }

def unRegisterLight (unit : StartedUnit) : StartedUnit := { unit with mLight := none }

end StartedUnit

structure StartedDevices where
  startedUnits : TreeMap String StartedUnit := ∅
  startedLights : TreeMap String Nat := ∅
  /-- The address of the next light. -/
  free : Nat := 0

namespace StartedDevices

/-! ### Attaching -/

def startUnit (s : StartedDevices) (name : String) : StartedDevices :=
  if name ∈ s.startedUnits then s else { s with startedUnits := s.startedUnits.insert name {} }

def startLight (s : StartedDevices) (name : String) : StartedDevices :=
  if name ∈ s.startedLights then s
  else { s with startedLights := s.startedLights.insert name s.free, free := s.free + 1 }

def registerStarted (s : StartedDevices) (name : String) : StartedDevices :=
  match s.startedLights[name]? with
  | some light => { s with startedUnits := s.startedUnits.modify name (·.registerLight light) }
  | none => s

/-- One turn of the loop over the configured units: what `probeAddress` says of the unit's keyboard and light. -/
def attachUnit (keyboardAnswers lightAnswers : String → Bool) (s : StartedDevices) (name : String) : StartedDevices :=
  if keyboardAnswers name then
    let s := s.startUnit name
    if lightAnswers name && (s.startedUnits[name]?.all fun unit => !unit.hasRegisteredLight) then
      (s.startLight name).registerStarted name
    else s
  else s

def attach (configuredUnits : List String) (keyboardAnswers lightAnswers : String → Bool) (s : StartedDevices) :
    StartedDevices :=
  configuredUnits.foldl (attachUnit keyboardAnswers lightAnswers) s

/-! ### Cleaning up -/

def unRegister (s : StartedDevices) (name : String) : StartedDevices :=
  { s with startedUnits := s.startedUnits.modify name (·.unRegisterLight) }

/-- The body of the first loop, without its `unit_it++`. -/
def sweepUnit (attached : String → Bool) (s : StartedDevices) (name : String) : StartedDevices :=
  if attached name then s
  else
    let s := if name ∈ s.startedLights then s.unRegister name else s
    { s with startedUnits := s.startedUnits.erase name }

/-- The body of the second, without its `light_it++`. -/
def sweepLight (attached : String → Bool) (s : StartedDevices) (name : String) : StartedDevices :=
  if attached name then s
  else
    let s := if name ∈ s.startedUnits then s.unRegister name else s
    { s with startedLights := s.startedLights.erase name }

def sweepUnits (attached : String → Bool) (fuel : Nat) (s : StartedDevices) : Outcome (StartedDevices × List String) :=
  loop startedUnits (sweepUnit attached) fuel s (first? s.startedUnits) []

def sweepLights (attached : String → Bool) (fuel : Nat) (s : StartedDevices) : Outcome (StartedDevices × List String) :=
  loop startedLights (sweepLight attached) fuel s (first? s.startedLights) []

/-- Both loops, with the units and the lights at which they have been. -/
def cleanUp (unitAttached lightAttached : String → Bool) (fuel : Nat) (s : StartedDevices) :
    Outcome (StartedDevices × List String × List String) :=
  (sweepUnits unitAttached fuel s).bind fun (s, units) =>
    (sweepLights lightAttached fuel s).bind fun (s, lights) => .ended (s, units, lights)

/-- What a sweep is for. The keys of a map are all different, so an entry is visited once. -/
structure CleanedUp (unitAttached lightAttached : String → Bool) (s after : StartedDevices) (units lights : List String) :
    Prop where
  unitsVisited : units = s.startedUnits.keys
  lightsVisited : lights = s.startedLights.keys
  unitsLeft : ∀ name, name ∈ after.startedUnits ↔ name ∈ s.startedUnits ∧ unitAttached name = true
  lightsLeft : ∀ name, after.startedLights[name]? = if lightAttached name then s.startedLights[name]? else none
  registered : ∀ (name : String) (unit : StartedUnit) light,
    after.startedUnits[name]? = some unit → unit.mLight = some light → ∃ other : String, after.startedLights[other]? = some light

/-- The sweep ends, having touched no iterator that is not valid, and has done what it is for. -/
def CleansUp (unitAttached lightAttached : String → Bool) (s : StartedDevices) : Prop :=
  ∃ fuel after units lights, s.cleanUp unitAttached lightAttached fuel = .ended (after, units, lights) ∧
    CleanedUp unitAttached lightAttached s after units lights

/-! ### Registered lights -/

/-- A registered light is the one started under the unit's own name. -/
def Consistent (s : StartedDevices) : Prop :=
  ∀ (name : String) (unit : StartedUnit) light, s.startedUnits[name]? = some unit → unit.mLight = some light →
    s.startedLights[name]? = some light

theorem consistent_empty : Consistent {} := by
  intro name unit light found
  rw [TreeMap.getElem?_emptyc] at found
  cases found

variable {s : StartedDevices} {name : String}

theorem Consistent.startUnit (consistent : s.Consistent) : (s.startUnit name).Consistent := by
  unfold StartedDevices.startUnit
  split
  · exact consistent
  · intro other unit light found registered
    rw [TreeMap.getElem?_insert] at found
    split at found
    · cases found
      cases registered
    · exact consistent other unit light found registered

theorem Consistent.startLight (consistent : s.Consistent) : (s.startLight name).Consistent := by
  unfold StartedDevices.startLight
  split
  · exact consistent
  case isFalse absent =>
    intro other unit light found registered
    have known := consistent other unit light found registered
    rw [TreeMap.getElem?_insert, if_neg]
    · exact known
    · intro same
      rw [← LawfulEqCmp.compare_eq_iff_eq.mp same] at known
      exact absent (TreeMap.mem_iff_isSome_getElem?.mpr (known ▸ rfl))

theorem Consistent.registerStarted (consistent : s.Consistent) : (s.registerStarted name).Consistent := by
  unfold StartedDevices.registerStarted
  split
  case h_1 started known =>
    intro other unit light found registered
    rw [TreeMap.getElem?_modify] at found
    split at found
    case isTrue same =>
      obtain ⟨_, _, rfl⟩ := Option.map_eq_some_iff.mp found
      rw [← LawfulEqCmp.compare_eq_iff_eq.mp same, ← Option.some.inj registered]
      exact known
    · exact consistent other unit light found registered
  · exact consistent

theorem Consistent.attachUnit (consistent : s.Consistent) (keyboardAnswers lightAnswers : String → Bool) :
    (s.attachUnit keyboardAnswers lightAnswers name).Consistent := by
  unfold StartedDevices.attachUnit
  split
  · dsimp only
    split
    · exact consistent.startUnit.startLight.registerStarted
    · exact consistent.startUnit
  · exact consistent

theorem Consistent.attach (consistent : s.Consistent) (configuredUnits : List String)
    (keyboardAnswers lightAnswers : String → Bool) :
    (s.attach configuredUnits keyboardAnswers lightAnswers).Consistent := by
  induction configuredUnits generalizing s with
  | nil => exact consistent
  | cons name rest ih => exact ih (consistent.attachUnit keyboardAnswers lightAnswers)

theorem Consistent.unRegister (consistent : s.Consistent) : (s.unRegister name).Consistent := by
  intro other unit light found registered
  rw [StartedDevices.unRegister, TreeMap.getElem?_modify] at found
  split at found
  · obtain ⟨_, _, rfl⟩ := Option.map_eq_some_iff.mp found
    cases registered
  · exact consistent other unit light found registered

/-- Erasing a unit leaves the other units their lights. -/
theorem Consistent.sweepUnit (consistent : s.Consistent) (attached : String → Bool) :
    (s.sweepUnit attached name).Consistent := by
  have erased {t : StartedDevices} (kept : t.Consistent) :
      Consistent { t with startedUnits := t.startedUnits.erase name } := by
    intro other unit light found registered
    rw [TreeMap.getElem?_erase] at found
    split at found
    · cases found
    · exact kept other unit light found registered
  unfold StartedDevices.sweepUnit
  split
  · exact consistent
  · dsimp only
    split
    · exact erased consistent.unRegister
    · exact erased consistent

/-- Before a light is erased, the unit of its name gives it up. -/
theorem Consistent.sweepLight (consistent : s.Consistent) (attached : String → Bool) :
    (s.sweepLight attached name).Consistent := by
  have erased {t : StartedDevices} (kept : t.Consistent)
      (free : ∀ unit : StartedUnit, t.startedUnits[name]? = some unit → unit.mLight = none) :
      Consistent { t with startedLights := t.startedLights.erase name } := by
    intro other unit light found registered
    rw [TreeMap.getElem?_erase, if_neg]
    · exact kept other unit light found registered
    · intro same
      rw [← LawfulEqCmp.compare_eq_iff_eq.mp same] at found
      exact Option.some_ne_none light (registered.symm.trans (free unit found))
  unfold StartedDevices.sweepLight
  split
  · exact consistent
  · dsimp only
    split
    case isTrue there =>
      refine erased consistent.unRegister fun unit found => ?_
      rw [StartedDevices.unRegister, TreeMap.getElem?_modify_self] at found
      obtain ⟨_, _, rfl⟩ := Option.map_eq_some_iff.mp found
      rfl
    case isFalse absent =>
      refine erased consistent fun unit found => ?_
      rw [TreeMap.getElem?_eq_none absent] at found
      cases found

/-! ### When a sweep succeeds -/

variable {attached unitAttached lightAttached : String → Bool}

theorem sweepUnit_attached (there : attached name = true) : s.sweepUnit attached name = s := if_pos there

theorem sweepLight_attached (there : attached name = true) : s.sweepLight attached name = s := if_pos there

theorem sweepUnit_erases (gone : attached name = false) : name ∉ (s.sweepUnit attached name).startedUnits := by
  simp [sweepUnit, gone]

theorem sweepLight_erases (gone : attached name = false) : name ∉ (s.sweepLight attached name).startedLights := by
  simp [sweepLight, gone]

/-- A sweep that ends has found every unit and every light attached, and has changed nothing. -/
theorem cleanUp_ends_iff {fuel : Nat} {after : StartedDevices} {units lights : List String} :
    s.cleanUp unitAttached lightAttached fuel = .ended (after, units, lights) ↔
      (s.startedUnits.size ≤ fuel ∧ s.startedLights.size ≤ fuel) ∧
        ((∀ name ∈ s.startedUnits, unitAttached name = true) ∧ ∀ name ∈ s.startedLights, lightAttached name = true) ∧
        after = s ∧ units = s.startedUnits.keys ∧ lights = s.startedLights.keys := by
  have unitsEnd := @loop_ends_iff _ _ _ _ _ _ startedUnits (sweepUnit unitAttached) _ s
    (fun _ => sweepUnit_attached) (fun _ => sweepUnit_erases) fuel
  have lightsEnd := @loop_ends_iff _ _ _ _ _ _ startedLights (sweepLight lightAttached) _ s
    (fun _ => sweepLight_attached) (fun _ => sweepLight_erases) fuel
  constructor
  · intro ended
    obtain ⟨_, first, rest⟩ := Outcome.bind_ended.mp ended
    obtain ⟨enoughUnits, allUnits, rfl⟩ := unitsEnd.mp first
    obtain ⟨_, second, last⟩ := Outcome.bind_ended.mp rest
    obtain ⟨enoughLights, allLights, rfl⟩ := lightsEnd.mp second
    cases last
    exact ⟨⟨enoughUnits, enoughLights⟩, ⟨allUnits, allLights⟩, rfl, rfl, rfl⟩
  · rintro ⟨⟨enoughUnits, enoughLights⟩, ⟨allUnits, allLights⟩, rfl, rfl, rfl⟩
    apply Outcome.bind_ended.mpr ⟨_, unitsEnd.mpr ⟨enoughUnits, allUnits, rfl⟩, ?_⟩
    exact Outcome.bind_ended.mpr ⟨_, lightsEnd.mpr ⟨enoughLights, allLights, rfl⟩, rfl⟩

/-- The states that `main` has after a number of passes. -/
inductive Reached (configuredUnits : List String) : StartedDevices → Prop where
  | start : Reached configuredUnits {}
  | pass {s after : StartedDevices} {fuel : Nat} {units lights : List String}
      (reached : Reached configuredUnits s) (keyboardAnswers lightAnswers unitAttached lightAttached : String → Bool)
      (ended : (s.attach configuredUnits keyboardAnswers lightAnswers).cleanUp unitAttached lightAttached fuel =
        .ended (after, units, lights)) : Reached configuredUnits after

theorem Reached.consistent {configuredUnits : List String} (reached : Reached configuredUnits s) : s.Consistent := by
  induction reached with
  | start => exact consistent_empty
  | pass _ keyboardAnswers lightAnswers _ _ ended ih =>
    obtain ⟨_, _, rfl, _, _⟩ := cleanUp_ends_iff.mp ended
    exact ih.attach configuredUnits keyboardAnswers lightAnswers

/-- A sweep does what it is for exactly if there is nothing to erase. -/
theorem cleansUp_iff (consistent : s.Consistent) :
    s.CleansUp unitAttached lightAttached ↔
      (∀ name ∈ s.startedUnits, unitAttached name = true) ∧ ∀ name ∈ s.startedLights, lightAttached name = true := by
  constructor
  · rintro ⟨fuel, after, units, lights, ended, _⟩
    obtain ⟨_, attached, _⟩ := cleanUp_ends_iff.mp ended
    exact attached
  · intro attached
    refine ⟨max s.startedUnits.size s.startedLights.size, s, s.startedUnits.keys, s.startedLights.keys, ?_, ?_⟩
    · apply cleanUp_ends_iff.mpr
      exact ⟨⟨Nat.le_max_left _ _, Nat.le_max_right _ _⟩, attached, rfl, rfl, rfl⟩
    · constructor
      · rfl
      · rfl
      · intro name
        exact ⟨fun present => ⟨present, attached.1 name present⟩, And.left⟩
      · intro name
        by_cases present : name ∈ s.startedLights
        · rw [if_pos (attached.2 name present)]
        · rw [TreeMap.getElem?_eq_none present, ite_self]
      · intro name unit light found registered
        exact ⟨name, consistent name unit light found registered⟩

/-- One unit and its light. -/
def kitchen : StartedDevices := StartedDevices.attach ["Kitchen"] (fun _ => true) (fun _ => true) {}

theorem kitchen_cleansUp : kitchen.CleansUp (fun _ => true) fun _ => true :=
  (cleansUp_iff (consistent_empty.attach _ _ _)).mpr ⟨fun _ _ => rfl, fun _ _ => rfl⟩

/-- The unit is unplugged: `unit_it++` follows `startedUnits.erase(unit_it)`. -/
theorem unplugged_kitchen_undefined :
    (∀ fuel, kitchen.cleanUp (· != "Kitchen") (fun _ => true) (fuel + 1) = .undefined) ∧
      ¬ kitchen.CleansUp (· != "Kitchen") fun _ => true := by
  have first : first? kitchen.startedUnits = some "Kitchen" := by decide
  have gone : next? (kitchen.sweepUnit (· != "Kitchen") "Kitchen").startedUnits "Kitchen" = none := by decide
  refine ⟨fun fuel => ?_, ?_⟩
  · rw [cleanUp, sweepUnits, first, loop, gone, Outcome.bind]
  · rintro ⟨fuel, after, units, lights, ended, _⟩
    obtain ⟨_, ⟨all, _⟩, _⟩ := cleanUp_ends_iff.mp ended
    exact absurd (all "Kitchen" (by decide)) (by decide)

end StartedDevices

end RgbClock
