import Mathlib.Order.Bounds.Basic
import GoDecorator.Proofs.Descriptor.UniqueNames

/-!
# Names without counters

`Names` remembers for each requested name the last number handed out with it, so that the search for
a free number need not start at two again. **The counters are of no consequence**: after any
requests the name that is handed out is the one that a search from two on would find
(`requests_answered`).

The invariant is `Names.Counted`: every number from two up to a counter belongs to a taken name. It
does not say that the name was handed out with that counter. A number may be passed over because its
name was reserved, or because it was asked for as a name of its own, and both ways the name is taken
for good. So the numbers below the counter need not be looked at again, and the least free number
from the counter on is the least free one from two on (`Counted.isLeast`).
-/

namespace GoDecorator

/-! ### Requests and what comes of them -/

/-- What a scope can be asked for. -/
inductive NameRequest where
  /-- To take the given name. -/
  | reserve (name : String)
  /-- To take and return a free name made from the given one. -/
  | allocate (base : String)
deriving DecidableEq, Repr

/-- A request together with its answer. -/
inductive NameEvent where
  /-- The name was asked to be taken, and the answer says whether it was free. -/
  | reserved (name : String) (free : Bool)
  /-- A name made from `base` was asked for, and `name` was handed out. -/
  | allocated (base name : String)
deriving DecidableEq, Repr

namespace NameEvent

/-- The request that was answered. -/
def request : NameEvent → NameRequest
  | reserved name _ => .reserve name
  | allocated base _ => .allocate base

/-- The name that is in use from then on: the one that was reserved or handed out. -/
def name : NameEvent → String
  | reserved name _ => name
  | allocated _ name => name

/-- **The answer is right**, given the names that were in use before. A reserved name was free if it
was not among them. A name that is asked for is handed out as it is if it was not among them, and
else with the least number from two on that makes a name that was not. -/
def IsRight (used : List String) : NameEvent → Prop
  | reserved name free => free = true ↔ name ∉ used
  | allocated base name =>
    if base ∉ used then name = base
    else ∃ k, IsLeast {k | 2 ≤ k ∧ base ++ toString k ∉ used} k ∧ name = base ++ toString k

/-- Only which names are in use matters. -/
theorem IsRight.congr {used used' : List String} (hused : ∀ x, x ∈ used ↔ x ∈ used')
    {event : NameEvent} (h : event.IsRight used) : event.IsRight used' := by
  cases event with
  | reserved name free => simpa only [IsRight, hused] using h
  | allocated base name => simpa only [IsRight, hused] using h

/-- A name that is handed out was not in use. -/
theorem IsRight.name_not_mem {used : List String} {base name : String}
    (h : (allocated base name).IsRight used) : name ∉ used := by
  rw [IsRight] at h
  split at h
  next hfree => exact h ▸ hfree
  next =>
    obtain ⟨k, hleast, rfl⟩ := h
    exact hleast.1.2

end NameEvent

namespace Names

/-- Answers a request. -/
def serve (names : Names) : NameRequest → NameEvent × Names
  | .reserve name => (.reserved name (names.reserve name).1, (names.reserve name).2)
  | .allocate base => (.allocated base (names.allocate base).1, (names.allocate base).2)

/-- What comes of requests that are made one after the other. -/
def history (names : Names) : List NameRequest → List NameEvent
  | [] => []
  | request :: requests => (names.serve request).1 :: (names.serve request).2.history requests

theorem request_serve (names : Names) (request : NameRequest) :
    (names.serve request).1.request = request := by
  cases request <;> rfl

/-- Every request is answered, in order. -/
theorem map_request_history (names : Names) (requests : List NameRequest) :
    (names.history requests).map NameEvent.request = requests := by
  induction requests generalizing names with
  | nil => rfl
  | cons request requests ih => rw [history, List.map_cons, request_serve, ih]

/-- One request puts one name in use. -/
theorem mem_taken_serve (names : Names) (request : NameRequest) (x : String) :
    x ∈ (names.serve request).2.taken ↔ x = (names.serve request).1.name ∨ x ∈ names.taken := by
  cases request with
  | reserve name => exact names.mem_taken_reserve name x
  | allocate base =>
    show x ∈ (names.allocate base).2.taken ↔ x = (names.allocate base).1 ∨ x ∈ names.taken
    rw [taken_allocate, List.mem_cons]

/-! ### Counters -/

/-- **Every number from two up to a counter belongs to a taken name.** -/
structure Counted (names : Names) : Prop where
  /-- A counter starts at one. -/
  one_le : ∀ base, 1 ≤ names.counter base
  /-- The numbers that were passed over are not free. -/
  taken : ∀ base k, 2 ≤ k → k ≤ names.counter base → numbered base k ∈ names.taken

/-- The numbers that the search passes over belong to taken names. -/
theorem numbered_mem_of_lt_firstFree {base : String} {taken : List String} {k j : Nat}
    (hk : k ≤ j) (hj : j < firstFree base taken k) : numbered base j ∈ taken := by
  fun_induction firstFree base taken k with
  | case1 taken k hmem ih =>
    rcases Nat.eq_or_lt_of_le hk with rfl | hlt
    · exact hmem
    · exact List.mem_of_mem_erase (ih hlt hj)
  | case2 taken k hmem => omega

theorem lookup_filter_ne {base other : String} (h : other ≠ base) (counters : List (String × Nat)) :
    (counters.filter (·.1 ≠ base)).lookup other = counters.lookup other := by
  induction counters with
  | nil => rfl
  | cons c counters ih =>
    by_cases hc : c.1 = base
    · rw [List.filter_cons_of_neg (by simpa using hc), ih, List.lookup_cons,
        beq_false_of_ne (hc ▸ h)]
    · rw [List.filter_cons_of_pos (by simpa using hc), List.lookup_cons, List.lookup_cons, ih]

/-- The counters after a request that finds its name taken. -/
theorem counter_allocate (names : Names) {base : String} (h : base ∈ names.taken)
    (other : String) :
    (names.allocate base).2.counter other =
      if other = base then firstFree base names.taken (names.counter base + 1)
      else names.counter other := by
  simp only [allocate, reserve, h, if_true, counter]
  split
  next heq => simp [heq]
  next hne => rw [List.lookup_cons, beq_false_of_ne hne, lookup_filter_ne hne]

/-- The name that is handed out where the requested one is taken. -/
theorem fst_allocate_of_mem (names : Names) {base : String} (h : base ∈ names.taken) :
    (names.allocate base).1 =
      numbered base (firstFree base names.taken (names.counter base + 1)) := by
  simp only [allocate, reserve, h, if_true]

/-- The number that is found from the counter on is the least free one from two on. -/
theorem Counted.isLeast {names : Names} (h : names.Counted) (base : String) :
    IsLeast {k | 2 ≤ k ∧ base ++ toString k ∉ names.taken}
      (firstFree base names.taken (names.counter base + 1)) := by
  have hle := le_firstFree base names.taken (names.counter base + 1)
  refine ⟨⟨(Nat.succ_le_succ (h.one_le base)).trans hle, numbered_firstFree_not_mem base _ _⟩, ?_⟩
  rintro k ⟨htwo, hfree⟩
  -- A free number is neither below the counter nor among those that the search passes over.
  have hcounter : names.counter base < k := by
    by_contra hnot
    exact hfree (h.taken base k htwo (Nat.le_of_not_lt hnot))
  by_contra hlt
  exact hfree (numbered_mem_of_lt_firstFree hcounter (Nat.lt_of_not_le hlt))

theorem counted_empty : empty.Counted where
  one_le _ := Nat.le_refl 1
  taken base k htwo hle := by
    have hone : empty.counter base = 1 := rfl
    omega

theorem Counted.reserve {names : Names} (h : names.Counted) (name : String) :
    (names.reserve name).2.Counted := by
  have hcounter : ∀ base, (names.reserve name).2.counter base = names.counter base := by
    intro base
    unfold Names.reserve
    split <;> rfl
  refine ⟨fun base ↦ hcounter base ▸ h.one_le base, fun base k htwo hle ↦ ?_⟩
  rw [hcounter] at hle
  exact (names.mem_taken_reserve name _).2 (.inr (h.taken base k htwo hle))

theorem Counted.allocate {names : Names} (h : names.Counted) (base : String) :
    (names.allocate base).2.Counted := by
  by_cases hmem : base ∈ names.taken
  · refine ⟨fun other ↦ ?_, fun other k htwo hle ↦ ?_⟩
    · rw [counter_allocate names hmem]
      split
      next => exact Nat.le_of_succ_le (h.isLeast base).1.1
      next => exact h.one_le other
    · rw [counter_allocate names hmem] at hle
      rw [taken_allocate, fst_allocate_of_mem names hmem, List.mem_cons]
      split at hle
      next heq =>
        subst heq
        -- The number itself is handed out, and every smaller one was not free.
        rcases Nat.eq_or_lt_of_le hle with rfl | hlt
        · exact .inl rfl
        · refine .inr (by_contra fun hfree ↦ ?_)
          exact absurd ((h.isLeast other).2 ⟨htwo, hfree⟩) (Nat.not_le_of_lt hlt)
      next => exact .inr (h.taken other k htwo hle)
  · rw [allocate_of_not_mem names hmem]
    exact ⟨h.one_le, fun other k htwo hle ↦ List.mem_cons_of_mem _ (h.taken other k htwo hle)⟩

theorem counted_ofReserved (reserved : List String) : (ofReserved reserved).Counted := by
  suffices hfold : ∀ names : Names, names.Counted →
      (reserved.foldl (fun names name ↦ (names.reserve name).2) names).Counted from
    hfold empty counted_empty
  induction reserved with
  | nil => exact fun names h ↦ h
  | cons name reserved ih => exact fun names h ↦ ih _ (h.reserve name)

/-! ### One request and many -/

/-- **One request** keeps the counters in order and is answered rightly. -/
theorem Counted.serve {names : Names} (h : names.Counted) (request : NameRequest) :
    (names.serve request).2.Counted ∧ (names.serve request).1.IsRight names.taken := by
  cases request with
  | reserve name => exact ⟨h.reserve name, names.fst_reserve name⟩
  | allocate base =>
    refine ⟨h.allocate base, ?_⟩
    show NameEvent.IsRight names.taken (.allocated base (names.allocate base).1)
    rw [NameEvent.IsRight]
    split
    next hfree => rw [allocate_of_not_mem names hfree]
    next hmem => exact ⟨_, h.isLeast base, fst_allocate_of_mem names (not_not.1 hmem)⟩

/-- **Every request of a history is answered rightly**, given the names in use when it is made. -/
theorem Counted.isRight_of_history {names : Names} (h : names.Counted) {used : List String}
    (hused : ∀ x, x ∈ names.taken ↔ x ∈ used) {requests : List NameRequest}
    {before after : List NameEvent} {event : NameEvent}
    (hhistory : names.history requests = before ++ event :: after) :
    event.IsRight (used ++ before.map NameEvent.name) := by
  induction requests generalizing names used before with
  | nil => cases before <;> cases hhistory
  | cons request requests ih =>
    obtain ⟨hcounted, hright⟩ := h.serve request
    rw [history] at hhistory
    cases before with
    | nil =>
      obtain ⟨rfl, -⟩ := List.cons.inj hhistory
      rw [List.map_nil, List.append_nil]
      exact hright.congr hused
    | cons earlier before =>
      obtain ⟨rfl, hrest⟩ := List.cons.inj hhistory
      -- The name of the first event joins those that are in use.
      have hafter : ∀ x, x ∈ (names.serve request).2.taken ↔
          x ∈ used ++ [(names.serve request).1.name] := by
        intro x
        rw [mem_taken_serve, hused, List.mem_append, List.mem_singleton, or_comm]
      rw [List.map_cons, List.append_cons]
      exact ih hcounted hafter hrest

/-- **The supply of names is the one without counters.** Whatever names are reserved at first and
whatever requests follow, every request is answered, and rightly so given the names that were
reserved or handed out before it. In particular no name is handed out that was reserved or handed
out before. -/
theorem requests_answered (reserved : List String) (requests : List NameRequest) :
    ((ofReserved reserved).history requests).map NameEvent.request = requests ∧
      ∀ before event after,
        (ofReserved reserved).history requests = before ++ event :: after →
          event.IsRight (reserved ++ before.map NameEvent.name) ∧
          ∀ base name, event = .allocated base name →
            name ∉ reserved ∧ name ∉ before.map NameEvent.name := by
  refine ⟨map_request_history _ requests, fun before event after hhistory ↦ ?_⟩
  have hright := (counted_ofReserved reserved).isRight_of_history
    (mem_taken_ofReserved reserved) hhistory
  refine ⟨hright, ?_⟩
  rintro base name rfl
  simpa only [List.mem_append, not_or] using hright.name_not_mem

/-- A number is passed over because it was asked for as a name of its own, and another because it
was reserved at first. -/
theorem requests_answered_passing :
    (ofReserved ["a3"]).history
        [.allocate "a", .allocate "a2", .allocate "a", .reserve "a4", .allocate "a"] =
      [.allocated "a" "a", .allocated "a2" "a2", .allocated "a" "a4", .reserved "a4" false,
        .allocated "a" "a5"] ∧
    "a5" ∉ ["a3"] ∧ "a5" ∉ ["a", "a2", "a4", "a4"] := by
  have hhistory : (ofReserved ["a3"]).history
      [.allocate "a", .allocate "a2", .allocate "a", .reserve "a4", .allocate "a"] =
      [.allocated "a" "a", .allocated "a2" "a2", .allocated "a" "a4", .reserved "a4" false] ++
        [.allocated "a" "a5"] := by
    decide +kernel
  exact ⟨hhistory, ((requests_answered _ _).2 _ _ [] hhistory).2 _ _ rfl⟩

end Names

end GoDecorator
