import RgbClock.House.Config
import RgbClock.House.Sweep

/-! Whole runs of the loop of `main` over the units of the settings file. A pass probes the addresses of the configured
units, starts what answers and then sweeps; as a sweep ends only if it finds everything attached, what has once been
started stays. -/

namespace RgbClock
open Std

/-- What the devices of the units answer in one pass: to the probes of their addresses, and later to `isAttached`. -/
structure HotPlugPass where
  keyboardAnswers : String → Bool
  lightAnswers : String → Bool
  unitAttached : String → Bool
  lightAttached : String → Bool

namespace StartedDevices

/-- The devices after these passes, if all their sweeps have come to an end. -/
inductive Passed (config : Config) : List HotPlugPass → StartedDevices → Prop where
  | none : Passed config [] {}
  | next {passes : List HotPlugPass} {s after : StartedDevices} {fuel : Nat} {units lights : List String}
      (before : Passed config passes s) (pass : HotPlugPass)
      (ended : (s.attach config.units pass.keyboardAnswers pass.lightAnswers).cleanUp
        pass.unitAttached pass.lightAttached fuel = .ended (after, units, lights)) :
      Passed config (passes ++ [pass]) after

/-! ### What is wired -/

/-- Each unit has the light that was started under its name, a light has its unit, and no two lights are the same. -/
structure Wired (s : StartedDevices) : Prop where
  paired : ∀ (name : String) (unit : StartedUnit), s.startedUnits[name]? = some unit → unit.mLight = s.startedLights[name]?
  known : ∀ name ∈ s.startedLights, name ∈ s.startedUnits
  below : ∀ (name : String) (light : Nat), s.startedLights[name]? = some light → light < s.free
  apart : ∀ (first second : String) (light : Nat), s.startedLights[first]? = some light →
    s.startedLights[second]? = some light → first = second

theorem wired_empty : Wired {} := by
  constructor
  · intro name unit found
    rw [TreeMap.getElem?_emptyc] at found
    cases found
  · intro name member
    exact absurd member TreeMap.not_mem_emptyc
  · intro name light found
    rw [TreeMap.getElem?_emptyc] at found
    cases found
  · intro first second light found
    rw [TreeMap.getElem?_emptyc] at found
    cases found

variable {s : StartedDevices} {name : String}

theorem Wired.startUnit (wired : s.Wired) : (s.startUnit name).Wired := by
  unfold StartedDevices.startUnit
  split
  · exact wired
  · rename_i absent
    refine ⟨?_, ?_, wired.below, wired.apart⟩
    · intro other unit found
      rw [TreeMap.getElem?_insert] at found
      split at found
      · rename_i same
        cases found
        rw [← LawfulEqCmp.compare_eq_iff_eq.mp same]
        have free : name ∉ s.startedLights := fun member => absent (wired.known name member)
        exact (TreeMap.getElem?_eq_none free).symm
      · exact wired.paired other unit found
    · intro other member
      exact TreeMap.mem_insert.mpr (.inr (wired.known other member))

theorem mem_startUnit (other : String) :
    other ∈ (s.startUnit name).startedUnits ↔ other ∈ s.startedUnits ∨ other = name := by
  unfold StartedDevices.startUnit
  split
  · rename_i present
    constructor
    · exact .inl
    · rintro (member | rfl)
      · exact member
      · exact present
  · rw [TreeMap.mem_insert, LawfulEqCmp.compare_eq_iff_eq]
    tauto

/-- A unit without a light whose light answers gets a new one. -/
theorem Wired.startLight (wired : s.Wired) (present : name ∈ s.startedUnits) (dark : name ∉ s.startedLights) :
    ((s.startLight name).registerStarted name).Wired ∧
      (∀ other, other ∈ ((s.startLight name).registerStarted name).startedUnits ↔ other ∈ s.startedUnits) ∧
      ((s.startLight name).registerStarted name).startedLights = s.startedLights.insert name s.free := by
  have after : (s.startLight name).registerStarted name =
      { startedUnits := s.startedUnits.modify name (·.registerLight s.free)
        startedLights := s.startedLights.insert name s.free
        free := s.free + 1 } := by
    unfold StartedDevices.startLight StartedDevices.registerStarted
    rw [if_neg dark]
    simp only [TreeMap.getElem?_insert_self]
  rw [after]
  refine ⟨⟨?_, ?_, ?_, ?_⟩, ?_, rfl⟩
  · intro other unit found
    rw [TreeMap.getElem?_modify] at found
    rw [TreeMap.getElem?_insert]
    split at found
    · rename_i same
      obtain ⟨_, _, rfl⟩ := Option.map_eq_some_iff.mp found
      rw [if_pos same]
      rfl
    · rename_i different
      rw [if_neg different]
      exact wired.paired other unit found
  · intro other member
    rw [TreeMap.mem_modify]
    rcases TreeMap.mem_insert.mp member with same | earlier
    · rwa [← LawfulEqCmp.compare_eq_iff_eq.mp same]
    · exact wired.known other earlier
  · intro other light found
    rw [TreeMap.getElem?_insert] at found
    split at found
    · cases found
      exact Nat.lt_succ_self _
    · exact Nat.lt_succ_of_lt (wired.below other light found)
  · -- the new light has an address that no other light has
    intro first second light one two
    rw [TreeMap.getElem?_insert] at one two
    split at one
    · rename_i here
      split at two
      · rename_i there
        rw [← LawfulEqCmp.compare_eq_iff_eq.mp here, ← LawfulEqCmp.compare_eq_iff_eq.mp there]
      · cases one
        exact absurd (wired.below second _ two) (Nat.lt_irrefl _)
    · split at two
      · cases two
        exact absurd (wired.below first _ one) (Nat.lt_irrefl _)
      · exact wired.apart first second light one two
  · intro other
    exact TreeMap.mem_modify

/-! ### One pass -/

variable {keyboardAnswers lightAnswers : String → Bool}

/-- What attaching does, for the names that the loop has been at. -/
structure Attached (keyboardAnswers lightAnswers : String → Bool) (visited : String → Prop) (s after : StartedDevices) :
    Prop where
  wired : after.Wired
  units : ∀ name, name ∈ after.startedUnits ↔ name ∈ s.startedUnits ∨ visited name ∧ keyboardAnswers name = true
  lights : ∀ name, name ∈ after.startedLights ↔
    name ∈ s.startedLights ∨ visited name ∧ keyboardAnswers name = true ∧ lightAnswers name = true
  kept : ∀ name ∈ s.startedLights, after.startedLights[name]? = s.startedLights[name]?

/-- A unit has a registered light when one was started under its name. -/
theorem Wired.hasRegisteredLight (wired : s.Wired) (present : name ∈ s.startedUnits) :
    (s.startedUnits[name]?.all fun unit => !unit.hasRegisteredLight) = true ↔ name ∉ s.startedLights := by
  obtain ⟨unit, found⟩ := Option.isSome_iff_exists.mp (TreeMap.mem_iff_isSome_getElem?.mp present)
  rw [found, Option.all_some, StartedUnit.hasRegisteredLight, wired.paired name unit found,
    TreeMap.mem_iff_isSome_getElem?, Bool.not_eq_true', Bool.not_eq_true]

theorem Wired.attachUnit (wired : s.Wired) :
    Attached keyboardAnswers lightAnswers (· = name) s (s.attachUnit keyboardAnswers lightAnswers name) := by
  unfold StartedDevices.attachUnit
  cases keyboard : keyboardAnswers name with
  | false =>
    rw [if_neg Bool.false_ne_true]
    refine ⟨wired, fun other => ?_, fun other => ?_, fun _ _ => rfl⟩
    · constructor
      · exact .inl
      · rintro (member | ⟨rfl, answers⟩)
        · exact member
        · exact absurd (keyboard.symm.trans answers) Bool.false_ne_true
    · constructor
      · exact .inl
      · rintro (member | ⟨rfl, answers, _⟩)
        · exact member
        · exact absurd (keyboard.symm.trans answers) Bool.false_ne_true
  | true =>
    rw [if_pos rfl]
    have started : (s.startUnit name).Wired := wired.startUnit
    have units : ∀ other, other ∈ (s.startUnit name).startedUnits ↔
        other ∈ s.startedUnits ∨ other = name ∧ keyboardAnswers other = true := by
      intro other
      rw [mem_startUnit]
      constructor
      · rintro (member | rfl)
        · exact .inl member
        · exact .inr ⟨rfl, keyboard⟩
      · exact Or.imp_right And.left
    have present : name ∈ (s.startUnit name).startedUnits := (units name).mpr (.inr ⟨rfl, keyboard⟩)
    have lights : (s.startUnit name).startedLights = s.startedLights := by
      unfold StartedDevices.startUnit
      split <;> rfl
    have dark := started.hasRegisteredLight present
    rw [lights] at dark
    dsimp only
    split
    · rename_i both
      obtain ⟨light, free⟩ := Bool.and_eq_true_iff.mp both
      obtain ⟨after, afterUnits, afterLights⟩ := started.startLight present (lights ▸ dark.mp free)
      rw [lights] at afterLights
      refine ⟨after, fun other => (afterUnits other).trans (units other), fun other => ?_, fun other member => ?_⟩
      · rw [afterLights, TreeMap.mem_insert, LawfulEqCmp.compare_eq_iff_eq]
        constructor
        · rintro (rfl | member)
          · exact .inr ⟨rfl, keyboard, light⟩
          · exact .inl member
        · exact Or.symm ∘ Or.imp_right (Eq.symm ∘ And.left)
      · rw [afterLights, TreeMap.getElem?_insert, if_neg]
        intro same
        exact dark.mp free (LawfulEqCmp.compare_eq_iff_eq.mp same ▸ member)
    · rename_i notBoth
      refine ⟨started, units, fun other => ?_, fun other _ => by rw [lights]⟩
      rw [lights]
      constructor
      · exact .inl
      · rintro (member | ⟨rfl, _, light⟩)
        · exact member
        · -- the light answers, so the unit has it already
          by_contra absent
          exact notBoth (Bool.and_eq_true_iff.mpr ⟨light, dark.mpr absent⟩)

theorem Wired.attach (wired : s.Wired) (names : List String) :
    Attached keyboardAnswers lightAnswers (· ∈ names) s (s.attach names keyboardAnswers lightAnswers) := by
  unfold StartedDevices.attach
  induction names generalizing s with
  | nil => exact ⟨wired, by simp, by simp, fun _ _ => rfl⟩
  | cons name rest ih =>
    have first : Attached keyboardAnswers lightAnswers (· = name) s _ := wired.attachUnit
    have others := ih first.wired
    rw [List.foldl_cons]
    refine ⟨others.wired, fun other => ?_, fun other => ?_, fun other member => ?_⟩
    · rw [others.units, first.units, List.mem_cons]
      tauto
    · rw [others.lights, first.lights, List.mem_cons]
      tauto
    · rw [others.kept other ((first.lights other).mpr (.inl member)), first.kept other member]

/-! ### Whole runs -/

variable {config : Config} {passes : List HotPlugPass}

/-- The unit is in the settings and its keyboard has answered in one of the passes. -/
def UnitSeen (config : Config) (passes : List HotPlugPass) (name : String) : Prop :=
  name ∈ config.mConfiguredUnits ∧ ∃ pass ∈ passes, pass.keyboardAnswers name = true

/-- In one pass its keyboard has answered and then its light. -/
def LightSeen (config : Config) (passes : List HotPlugPass) (name : String) : Prop :=
  name ∈ config.mConfiguredUnits ∧
    ∃ pass ∈ passes, pass.keyboardAnswers name = true ∧ pass.lightAnswers name = true

structure Known (config : Config) (passes : List HotPlugPass) (s : StartedDevices) : Prop where
  wired : s.Wired
  units : ∀ name, name ∈ s.startedUnits ↔ UnitSeen config passes name
  lights : ∀ name, name ∈ s.startedLights ↔ LightSeen config passes name

theorem Known.attach (known : Known config passes s) (pass : HotPlugPass) :
    Known config (passes ++ [pass]) (s.attach config.units pass.keyboardAnswers pass.lightAnswers) := by
  have attached : Attached pass.keyboardAnswers pass.lightAnswers (· ∈ config.units) s _ := known.wired.attach config.units
  refine ⟨attached.wired, fun name => ?_, fun name => ?_⟩
  · rw [attached.units, known.units, Config.units, TreeMap.mem_keys]
    simp only [UnitSeen, List.mem_append, List.mem_singleton, or_and_right, exists_or, exists_eq_left, and_or_left]
  · rw [attached.lights, known.lights, Config.units, TreeMap.mem_keys]
    simp only [LightSeen, List.mem_append, List.mem_singleton, or_and_right, exists_or, exists_eq_left, and_or_left]

theorem Passed.known (passed : Passed config passes s) : Known config passes s := by
  induction passed with
  | none => exact ⟨wired_empty, by simp [UnitSeen], by simp [LightSeen]⟩
  | next _ pass ended ih =>
    rw [(cleanUp_ends_iff.mp ended).2.2.1]
    exact ih.attach pass

/-- The next pass ends if all that is then started is attached, and it leaves that as it is. -/
theorem passed_concat {pass : HotPlugPass} {after : StartedDevices} :
    Passed config (passes ++ [pass]) after ↔ ∃ s, Passed config passes s ∧
      after = s.attach config.units pass.keyboardAnswers pass.lightAnswers ∧
      (∀ name ∈ after.startedUnits, pass.unitAttached name = true) ∧
      ∀ name ∈ after.startedLights, pass.lightAttached name = true := by
  constructor
  · generalize all : passes ++ [pass] = run
    rintro (_ | ⟨before, last, ended⟩)
    · exact absurd all (List.concat_ne_nil _ _)
    · obtain ⟨rfl, same⟩ := List.append_inj' all rfl
      cases same
      obtain ⟨_, ⟨units, lights⟩, rfl, _⟩ := cleanUp_ends_iff.mp ended
      exact ⟨_, before, rfl, units, lights⟩
  · rintro ⟨s, before, rfl, units, lights⟩
    exact .next before pass (cleanUp_ends_iff.mpr
      ⟨⟨Nat.le_max_left _ _, Nat.le_max_right _ _⟩, ⟨units, lights⟩, rfl, rfl, rfl⟩)

/-- After each of the passes, all that has been seen up to then is still attached. -/
def NothingUnplugged (config : Config) (passes : List HotPlugPass) : Prop :=
  ∀ (earlier : List HotPlugPass) (pass : HotPlugPass), earlier ++ [pass] <+: passes → ∀ name,
    (UnitSeen config (earlier ++ [pass]) name → pass.unitAttached name = true) ∧
      (LightSeen config (earlier ++ [pass]) name → pass.lightAttached name = true)

theorem nothingUnplugged_concat {pass : HotPlugPass} : NothingUnplugged config (passes ++ [pass]) ↔
    NothingUnplugged config passes ∧ ∀ name,
      (UnitSeen config (passes ++ [pass]) name → pass.unitAttached name = true) ∧
        (LightSeen config (passes ++ [pass]) name → pass.lightAttached name = true) := by
  constructor
  · intro whole
    exact ⟨fun earlier last inside => whole earlier last (inside.trans (List.prefix_append _ _)),
      whole passes pass List.prefix_rfl⟩
  · rintro ⟨before, here⟩ earlier last inside
    rcases List.prefix_concat_iff.mp inside with same | inside
    · obtain ⟨rfl, lastSame⟩ := List.append_inj' same rfl
      cases lastSame
      exact here
    · exact before earlier last inside

theorem exists_passed_iff (config : Config) (passes : List HotPlugPass) :
    (∃ s, Passed config passes s) ↔ NothingUnplugged config passes := by
  induction passes using List.reverseRecOn with
  | nil =>
    refine iff_of_true ⟨{}, .none⟩ fun earlier pass inside => ?_
    exact absurd (List.prefix_nil.mp inside) (List.concat_ne_nil _ _)
  | append_singleton passes pass ih =>
    rw [nothingUnplugged_concat, ← ih]
    constructor
    · rintro ⟨after, passed⟩
      have known := passed.known
      obtain ⟨s, before, _, units, lights⟩ := passed_concat.mp passed
      exact ⟨⟨s, before⟩, fun name => ⟨fun seen => units name ((known.units name).mpr seen),
        fun seen => lights name ((known.lights name).mpr seen)⟩⟩
    · rintro ⟨⟨s, before⟩, attached⟩
      have known := before.known.attach pass
      exact ⟨_, passed_concat.mpr ⟨s, before, rfl,
        fun name member => (attached name).1 ((known.units name).mp member),
        fun name member => (attached name).2 ((known.lights name).mp member)⟩⟩

/-- A clock unit runs exactly if it is configured and its keyboard has answered at least once; it has a light exactly if
keyboard and light have answered in one pass. The light it has is the one started for it and no other unit's. -/
theorem started_by_passes (passed : Passed config passes s) (name : String) :
    (name ∈ s.startedUnits ↔ UnitSeen config passes name) ∧
      (name ∈ s.startedLights ↔ LightSeen config passes name) ∧
      (∀ unit, s.startedUnits[name]? = some unit → unit.mLight = s.startedLights[name]?) ∧
      ∀ (other : String) (light : Nat), s.startedLights[name]? = some light → s.startedLights[other]? = some light →
        name = other :=
  have known := passed.known
  ⟨known.units name, known.lights name, known.wired.paired name, known.wired.apart name⟩

/-- The kitchen's light answers one pass after its keyboard. -/
theorem started_by_passes_kitchen :
    let config : Config := { mConfiguredUnits := (∅ : TreeMap String UnitConfig).insert "Kitchen" {} }
    let pass (light : Bool) : HotPlugPass := ⟨fun _ => true, fun _ => light, fun _ => true, fun _ => true⟩
    ∃ s : StartedDevices, Passed config [pass false, pass true] s ∧
      "Kitchen" ∈ s.startedUnits ∧ "Kitchen" ∈ s.startedLights ∧ "Attic" ∉ s.startedUnits := by
  intro config pass
  have kitchen : "Kitchen" ∈ config.mConfiguredUnits := TreeMap.mem_insert_self
  have attic : "Attic" ∉ config.mConfiguredUnits := by
    simp [config]
  have attached : NothingUnplugged config [pass false, pass true] := by
    rintro earlier last ⟨rest, all⟩ name
    have member : last ∈ [pass false, pass true] := by
      rw [← all]
      simp
    have same : last = pass false ∨ last = pass true := by simpa using member
    rcases same with rfl | rfl <;> exact ⟨fun _ => rfl, fun _ => rfl⟩
  obtain ⟨s, passed⟩ := (exists_passed_iff config [pass false, pass true]).mpr attached
  have inKitchen := started_by_passes passed "Kitchen"
  refine ⟨s, passed, inKitchen.1.mpr ⟨kitchen, pass true, by simp, rfl⟩,
    inKitchen.2.1.mpr ⟨kitchen, pass true, by simp, rfl, rfl⟩, fun started => ?_⟩
  exact attic ((started_by_passes passed "Attic").1.mp started).1

/-- The loop gets through its passes exactly as long as nothing is unplugged. What is started then stays: no later pass
stops a unit or a light, or gives a unit another light. -/
theorem passes_end_iff (config : Config) (passes more : List HotPlugPass) :
    ((∃ after, Passed config (passes ++ more) after) ↔ NothingUnplugged config (passes ++ more)) ∧
      ∀ after, Passed config (passes ++ more) after → ∃ s, Passed config passes s ∧ ∀ name,
        (name ∈ s.startedUnits → name ∈ after.startedUnits) ∧
        (name ∈ s.startedLights → after.startedLights[name]? = s.startedLights[name]?) := by
  refine ⟨exists_passed_iff config _, ?_⟩
  -- what holds after the last pass but one holds after the last
  induction more using List.reverseRecOn with
  | nil =>
    intro after passed
    rw [List.append_nil] at passed
    exact ⟨after, passed, fun name => ⟨id, fun _ => rfl⟩⟩
  | append_singleton more pass ih =>
    intro after passed
    rw [← List.append_assoc] at passed
    obtain ⟨middle, before, rfl, _⟩ := passed_concat.mp passed
    obtain ⟨s, first, stays⟩ := ih middle before
    have last : Attached pass.keyboardAnswers pass.lightAnswers (· ∈ config.units) middle _ :=
      before.known.wired.attach config.units
    refine ⟨s, first, fun name => ⟨fun started => ?_, fun started => ?_⟩⟩
    · exact (last.units name).mpr (.inl ((stays name).1 started))
    · have same := (stays name).2 started
      have still : name ∈ middle.startedLights := by
        rw [TreeMap.mem_iff_isSome_getElem?, same, ← TreeMap.mem_iff_isSome_getElem?]
        exact started
      rw [last.kept name still, same]

end StartedDevices

end RgbClock
