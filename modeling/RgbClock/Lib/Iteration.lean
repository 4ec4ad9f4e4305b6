import Mathlib.Data.List.Basic

/-! A loop that holds an iterator into an ordered map while its body changes the map. An iterator stands at
a key or past the last one; it may be moved on only while the entry it stands at is in the map. -/

namespace Iteration
open Std

universe u v w x

/-- What becomes of a computation that may do something undefined, or need more steps than it was given. -/
inductive Outcome (Result : Type u) where
  | ended (result : Result)
  | undefined
  | unfinished
  deriving DecidableEq

namespace Outcome

variable {Result : Type u} {Other : Type v}

def bind (outcome : Outcome Result) (next : Result → Outcome Other) : Outcome Other :=
  match outcome with
  | .ended result => next result
  | .undefined => .undefined
  | .unfinished => .unfinished

theorem bind_ended {outcome : Outcome Result} {next : Result → Outcome Other} {other : Other} :
    outcome.bind next = .ended other ↔ ∃ result, outcome = .ended result ∧ next result = .ended other := by
  cases outcome <;> simp [bind]

end Outcome

variable {Key : Type u} {Value : Type v} {State : Type w} {cmp : Key → Key → Ordering}

/-- The first key, if there is one. -/
def first? (map : TreeMap Key Value cmp) : Option Key := map.keys.head?

/-- The key after this one, if this one is still in the map. -/
def next? (map : TreeMap Key Value cmp) (key : Key) : Option (Option Key) :=
  if key ∈ map then some (map.keys.find? fun other => cmp key other == .lt) else none

/-- From a key on to the end, noting the keys at which the body ran. -/
def loop (entries : State → TreeMap Key Value cmp) (body : State → Key → State) :
    Nat → State → Option Key → List Key → Outcome (State × List Key)
  | _, state, none, visited => .ended (state, visited)
  | 0, _, some _, _ => .unfinished
  | fuel + 1, state, some key, visited =>
    match next? (entries (body state key)) key with
    | none => .undefined
    | some iterator => loop entries body fuel (body state key) iterator (visited ++ [key])

section
variable [TransCmp cmp] [LawfulEqCmp cmp] {map : TreeMap Key Value cmp} {front rest : List Key} {key : Key}

theorem next?_of_keys (keys : map.keys = front ++ key :: rest) : next? map key = some rest.head? := by
  have present : key ∈ map := TreeMap.mem_keys.mp (keys ▸ List.mem_append_right _ List.mem_cons_self)
  have ordered : (front ++ key :: rest).Pairwise fun a b => cmp a b = .lt := keys ▸ TreeMap.ordered_keys
  obtain ⟨_, later, earlier⟩ := List.pairwise_append.mp ordered
  have none_before : front.find? (fun other => cmp key other == .lt) = none := by
    apply List.find?_eq_none.mpr
    intro other member after
    have before := earlier other member key List.mem_cons_self
    rw [OrientedCmp.gt_of_lt before] at after
    cases after
  have self : cmp key key = .eq := ReflCmp.compare_self
  rw [next?, if_pos present, keys, List.find?_append, none_before, Option.none_or, List.find?_cons, self]
  cases rest with
  | nil => rfl
  | cons first others =>
    have after := (List.pairwise_cons.mp later).1 first List.mem_cons_self
    simp [after]

omit [TransCmp cmp] [LawfulEqCmp cmp] in
theorem next?_erased (gone : key ∉ map) : next? map key = none := if_neg gone

variable {entries : State → TreeMap Key Value cmp} {body : State → Key → State}

/-- A body that changes nothing is run at each key in turn. -/
theorem loop_still {state : State} (still : ∀ key ∈ rest, body state key = state)
    (keys : (entries state).keys = front ++ rest) (fuel : Nat) :
    loop entries body fuel state rest.head? front =
      if rest.length ≤ fuel then .ended (state, front ++ rest) else .unfinished := by
  induction rest generalizing front fuel with
  | nil =>
    rw [List.length_nil, if_pos (Nat.zero_le fuel), List.append_nil, List.head?_nil]
    cases fuel <;> rfl
  | cons key rest ih =>
    cases fuel with
    | zero => rfl
    | succ fuel =>
      rw [List.head?_cons, loop, still key List.mem_cons_self, next?_of_keys keys, List.append_cons front key rest]
      rw [List.append_cons] at keys
      simp only [List.length_cons, Nat.add_le_add_iff_right]
      exact ih (fun other member => still other (List.mem_cons_of_mem _ member)) keys fuel

/-- The loop does not end if its body erases the entry at which the iterator stands. -/
theorem loop_not_ended {state : State} {before after : List Key} (still : ∀ key ∈ before, body state key = state)
    (erased : key ∉ entries (body state key)) (keys : (entries state).keys = front ++ (before ++ key :: after))
    (fuel : Nat) (result : State × List Key) :
    loop entries body fuel state (before ++ key :: after).head? front ≠ .ended result := by
  induction before generalizing front fuel with
  | nil =>
    cases fuel with
    | zero => nofun
    | succ fuel =>
      rw [List.nil_append, List.head?_cons, loop, next?_erased erased]
      nofun
  | cons first before ih =>
    cases fuel with
    | zero => nofun
    | succ fuel =>
      rw [List.cons_append] at keys ⊢
      rw [List.head?_cons, loop, still first List.mem_cons_self, next?_of_keys keys]
      rw [List.append_cons] at keys
      exact ih (fun other member => still other (List.mem_cons_of_mem _ member)) keys fuel

end

/-! ### Bodies that erase some entries and leave the others -/

section
variable [TransCmp cmp] [LawfulEqCmp cmp] {entries : State → TreeMap Key Value cmp} {body : State → Key → State}
  {stays : Key → Bool} {state : State}

theorem loop_of_stays (still : ∀ key, stays key = true → body state key = state)
    (all : ∀ key ∈ entries state, stays key = true) (fuel : Nat) :
    loop entries body fuel state (first? (entries state)) [] =
      if (entries state).size ≤ fuel then .ended (state, (entries state).keys) else .unfinished := by
  rw [first?, ← TreeMap.length_keys]
  exact loop_still (fun key member => still key (all key (TreeMap.mem_keys.mp member))) rfl fuel

theorem stays_of_loop (still : ∀ key, stays key = true → body state key = state)
    (erased : ∀ key, stays key = false → key ∉ entries (body state key)) {fuel : Nat} {result : State × List Key}
    (ended : loop entries body fuel state (first? (entries state)) [] = .ended result) :
    ∀ key ∈ entries state, stays key = true := by
  intro key present
  by_contra leaves
  obtain ⟨first, found⟩ : ∃ first, (entries state).keys.find? (!stays ·) = some first := by
    apply Option.isSome_iff_exists.mp
    rw [List.find?_isSome]
    exact ⟨key, TreeMap.mem_keys.mpr present, by simpa using leaves⟩
  obtain ⟨gone, before, after, keys, earlier⟩ := List.find?_eq_some_iff_append.mp found
  rw [first?, keys] at ended
  refine loop_not_ended (fun other member => still other ?_) (erased first ?_) keys fuel result ended
  · simpa using earlier other member
  · simpa using gone

/-- The loop ends if nothing is to be erased, and not otherwise. -/
theorem loop_ends_iff (still : ∀ key, stays key = true → body state key = state)
    (erased : ∀ key, stays key = false → key ∉ entries (body state key)) {fuel : Nat} {result : State × List Key} :
    loop entries body fuel state (first? (entries state)) [] = .ended result ↔
      (entries state).size ≤ fuel ∧ (∀ key ∈ entries state, stays key = true) ∧ result = (state, (entries state).keys) := by
  constructor
  · intro ended
    have all := stays_of_loop still erased ended
    rw [loop_of_stays still all] at ended
    split at ended
    case isTrue enough => exact ⟨enough, all, (Outcome.ended.inj ended).symm⟩
    · cases ended
  · rintro ⟨enough, all, rfl⟩
    rw [loop_of_stays still all, if_pos enough]

end

end Iteration
