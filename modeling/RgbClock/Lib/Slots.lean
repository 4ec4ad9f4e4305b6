import Mathlib.Data.List.Basic

/-! Lists as tables: a step writes entries in place, and each entry stays related to what it was. -/

namespace Slots

universe u

variable {α : Type u}

theorem concat_cases {entries : List α} {new a : α} {j : Nat} (found : (entries ++ [new])[j]? = some a) :
    entries[j]? = some a ∨ j = entries.length ∧ a = new := by
  rcases Nat.lt_trichotomy j entries.length with inside | last | outside
  · rw [List.getElem?_append_left inside] at found
    exact Or.inl found
  · subst last
    rw [List.getElem?_concat_length] at found
    exact Or.inr ⟨rfl, (Option.some.inj found).symm⟩
  · rw [List.getElem?_eq_none (by simp; omega)] at found
    cases found

theorem set_cases {entries : List α} {new a : α} {k j : Nat} (found : (entries.set k new)[j]? = some a) :
    j = k ∧ a = new ∨ j ≠ k ∧ entries[j]? = some a := by
  by_cases same : k = j
  · subst same
    rw [List.getElem?_set_self (by simpa using (List.getElem?_eq_some_iff.mp found).1)] at found
    exact Or.inl ⟨rfl, (Option.some.inj found).symm⟩
  · rw [List.getElem?_set_ne same] at found
    exact Or.inr ⟨fun other => same other.symm, found⟩

/-- Every entry stays where it is, related to what it was. -/
structure Each (R : α → α → Prop) (before after : List α) : Prop where
  length : after.length = before.length
  forth : ∀ (j : Nat) (a : α), before[j]? = some a → ∃ b, after[j]? = some b ∧ R a b

namespace Each
variable {R : α → α → Prop} {before middle after : List α}

theorem back (each : Each R before after) {j : Nat} {b : α} (found : after[j]? = some b) :
    ∃ a, before[j]? = some a ∧ R a b := by
  have inside := (List.getElem?_eq_some_iff.mp found).1
  rw [each.length] at inside
  obtain ⟨other, same, related⟩ := each.forth j _ (List.getElem?_eq_getElem inside)
  rw [found] at same
  obtain rfl := Option.some.inj same
  exact ⟨_, List.getElem?_eq_getElem inside, related⟩

theorem refl (reflexive : ∀ a, R a a) (entries : List α) : Each R entries entries :=
  ⟨rfl, fun _ a found => ⟨a, found, reflexive a⟩⟩

theorem imp {S : α → α → Prop} (each : Each R before after) (weaker : ∀ a b, R a b → S a b) :
    Each S before after := by
  refine ⟨each.length, fun j a found => ?_⟩
  obtain ⟨b, foundThen, related⟩ := each.forth j a found
  exact ⟨b, foundThen, weaker a b related⟩

theorem trans (transitive : ∀ a b c, R a b → R b c → R a c) (first : Each R before middle)
    (second : Each R middle after) : Each R before after := by
  refine ⟨second.length.trans first.length, fun j a found => ?_⟩
  obtain ⟨b, foundThen, related⟩ := first.forth j a found
  obtain ⟨c, foundLast, relatedToo⟩ := second.forth j b foundThen
  exact ⟨c, foundLast, transitive a b c related relatedToo⟩

theorem set (reflexive : ∀ a, R a a) {k : Nat} {a b : α} (found : before[k]? = some a) (related : R a b) :
    Each R before (before.set k b) := by
  have inside := (List.getElem?_eq_some_iff.mp found).1
  refine ⟨List.length_set, fun j other present => ?_⟩
  by_cases same : k = j
  · subst same
    rw [found] at present
    obtain rfl := Option.some.inj present
    exact ⟨b, List.getElem?_set_self inside, related⟩
  · exact ⟨other, by rw [List.getElem?_set_ne same, present], reflexive other⟩

end Each

theorem each_foldl {σ ε : Type u} {R : α → α → Prop} (reflexive : ∀ a, R a a)
    (transitive : ∀ a b c, R a b → R b c → R a c) {step : σ → ε → σ} {entries : σ → List α}
    (one : ∀ s e, Each R (entries s) (entries (step s e))) (s : σ) (events : List ε) :
    Each R (entries s) (entries (events.foldl step s)) := by
  induction events generalizing s with
  | nil => exact Each.refl reflexive _
  | cons e rest ih => exact Each.trans transitive (one s e) (ih (step s e))

end Slots
