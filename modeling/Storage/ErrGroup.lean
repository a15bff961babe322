import Storage.Context
import Mathlib.Logic.Relation
import Mathlib.Data.PNat.Defs
import Mathlib.Data.List.Perm.Basic

/-!
# `errgroup.Group` fan-outs over every interleaving

Every concurrent operation of the repository has the shape

    wg := errgroup.Group{}
    for _, x := range items { wg.Go(func() error { return op(x) }) }
    return wg.Wait()

possibly after `wg.SetLimit(n)`.  `Go` takes a slot of the limit (blocking the loop while
none is free), starts a goroutine that calls `op(x)`, and, once the call returns, records its
error through `errOnce` if it is the first non-nil one and frees the slot; `Wait` returns
the recorded error once every goroutine is done.  The goroutine captures its own `x` (the
module requires Go 1.23, where each loop iteration has its own variable).

A `Group` is that computation at any point, and `Step` is one move of the loop or of any
goroutine, so a sequence of steps is one interleaving.  What a call returns is the
environment's choice at its `ret` step: the theorems hold for every result of every call.
-/

namespace Storage
namespace ErrGroup

/-- Where a goroutine started by `Go` is: launched, its function not called yet; calling; or
returned `r`, its deferred `done` not run yet. -/
inductive Phase where
  | ready
  | calling
  | returned (r : Option Err)
  deriving DecidableEq, Repr

/-- The function of a goroutine in this phase has been called. -/
def Phase.started : Phase → Bool
  | .ready => false
  | _ => true

/-- An errgroup fan-out in progress: the items the launching loop has not reached, the
goroutines holding a slot (launched, `done` not run yet), the goroutines whose `done` ran with
what their call returned in that order, the items whose call has begun in the order the calls
began, the error `errOnce` recorded, and `SetLimit(n)`, which the repository only calls with
`n > 0`. -/
structure Group (α : Type) where
  pending : List α
  live : List (α × Phase)
  finished : List (α × Option Err)
  calls : List α
  err : Option Err
  limit : Option ℕ+
  deriving Repr

variable {α : Type}

/-- The fan-out before its loop starts. -/
def start (items : List α) (limit : Option ℕ+) : Group α :=
  ⟨items, [], [], [], none, limit⟩

/-- One move of the launching loop or of one goroutine: `Go(f)` for the next item once a slot
is free, a goroutine calling its function, a call returning `r`, or the deferred `done`, which
records the first error and frees the slot. -/
inductive Step : Group α → Group α → Prop
  | launch {g : Group α} {x : α} {rest : List α} :
      g.pending = x :: rest → (∀ n : ℕ+, g.limit = some n → g.live.length < n) →
      Step g { g with pending := rest, live := g.live ++ [(x, .ready)] }
  | call {g : Group α} (pre post : List (α × Phase)) (x : α) :
      g.live = pre ++ (x, .ready) :: post →
      Step g { g with live := pre ++ (x, .calling) :: post, calls := g.calls ++ [x] }
  | ret {g : Group α} (pre post : List (α × Phase)) (x : α) (r : Option Err) :
      g.live = pre ++ (x, .calling) :: post →
      Step g { g with live := pre ++ (x, .returned r) :: post }
  | done {g : Group α} (pre post : List (α × Phase)) (x : α) (r : Option Err) :
      g.live = pre ++ (x, .returned r) :: post →
      Step g { g with live := pre ++ post, finished := g.finished ++ [(x, r)],
                      err := g.err.or r }

/-- `Wait` returns: the loop is over and no goroutine is left. -/
def Group.Waiting (g : Group α) : Prop := g.pending = [] ∧ g.live = []

/-- The states one interleaving of the fan-out of `items` can reach. -/
def Reach (items : List α) (limit : Option ℕ+) (g : Group α) : Prop :=
  Relation.ReflTransGen Step (start items limit) g

/-! ## The invariant -/

/-- What holds at every point of a fan-out of `items` with limit `limit`: each item is
finished, live or pending exactly once; the calls made are those of the finished goroutines and
of the live ones past `ready`; no error is recorded while every finished call returned nil, and
a recorded error is what some finished call returned; the limit is the one set, and no more
goroutines than it hold a slot. -/
structure Inv (items : List α) (limit : Option ℕ+) (g : Group α) : Prop where
  perm : (g.finished.map Prod.fst ++ g.live.map Prod.fst ++ g.pending).Perm items
  calls : g.calls.Perm (g.finished.map Prod.fst ++
    (g.live.filter fun p => p.2.started).map Prod.fst)
  err_none : g.err = none ↔ ∀ p ∈ g.finished, p.2 = none
  err_some : ∀ e, g.err = some e → ∃ x, (x, some e) ∈ g.finished
  limit_eq : g.limit = limit
  bound : ∀ n : ℕ+, g.limit = some n → g.live.length ≤ n

theorem inv_start (items : List α) (limit : Option ℕ+) :
    Inv items limit (start items limit) where
  perm := by simp [start]
  calls := by simp [start]
  err_none := by simp [start]
  err_some := by simp [start]
  limit_eq := rfl
  bound := by simp [start]

section Step

variable {items : List α} {limit : Option ℕ+} {g : Group α}

theorem inv_launch (h : Inv items limit g) {x : α} {rest : List α} (hp : g.pending = x :: rest)
    (hfree : ∀ n : ℕ+, g.limit = some n → g.live.length < n) :
    Inv items limit { g with pending := rest, live := g.live ++ [(x, .ready)] } where
  perm := by simpa [hp] using h.perm
  calls := by simpa [Phase.started] using h.calls
  err_none := h.err_none
  err_some := h.err_some
  limit_eq := h.limit_eq
  bound n hn := by simpa using hfree n hn

theorem inv_call (h : Inv items limit g) {pre post : List (α × Phase)} {x : α}
    (hl : g.live = pre ++ (x, .ready) :: post) :
    Inv items limit
      { g with live := pre ++ (x, .calling) :: post, calls := g.calls ++ [x] } where
  perm := by simpa [hl] using h.perm
  calls := by
    have hc := h.calls
    simp only [hl, List.filter_append, List.filter_cons, Phase.started, if_true, if_false,
      List.map_append, List.map_cons] at hc ⊢
    refine (hc.append_right [x]).trans ?_
    simp only [List.append_assoc]
    exact .append_left _ (.append_left _ (List.perm_append_singleton x _))
  err_none := h.err_none
  err_some := h.err_some
  limit_eq := h.limit_eq
  bound n hn := by simpa [hl] using h.bound n hn

theorem inv_ret (h : Inv items limit g) {pre post : List (α × Phase)} {x : α}
    (r : Option Err) (hl : g.live = pre ++ (x, .calling) :: post) :
    Inv items limit { g with live := pre ++ (x, .returned r) :: post } where
  perm := by simpa [hl] using h.perm
  calls := by simpa [hl, Phase.started] using h.calls
  err_none := h.err_none
  err_some := h.err_some
  limit_eq := h.limit_eq
  bound n hn := by simpa [hl] using h.bound n hn

theorem inv_done (h : Inv items limit g) {pre post : List (α × Phase)} {x : α}
    {r : Option Err} (hl : g.live = pre ++ (x, .returned r) :: post) :
    Inv items limit { g with live := pre ++ post, finished := g.finished ++ [(x, r)],
                             err := g.err.or r } where
  perm := by
    refine List.Perm.trans ?_ h.perm
    simp only [hl, List.map_append, List.map_cons, List.map_nil, List.append_assoc,
      List.singleton_append, List.cons_append]
    exact .append_left _ (@List.perm_middle _ x (pre.map Prod.fst) _).symm
  calls := by
    refine h.calls.trans ?_
    simp only [hl, List.filter_append, List.filter_cons, Phase.started, if_true,
      List.map_append, List.map_cons, List.map_nil, List.append_assoc, List.singleton_append]
    exact .append_left _ List.perm_middle
  err_none := by
    rw [Option.or_eq_none, h.err_none]
    constructor
    · rintro ⟨hf, hr⟩ p hp
      rcases List.mem_append.mp hp with hp | hp
      · exact hf p hp
      · rw [List.mem_singleton.mp hp]; exact hr
    · intro hall
      exact ⟨fun p hp => hall p (List.mem_append_left _ hp), hall (x, r) (by simp)⟩
  err_some e he := by
    rcases Option.or_eq_some.mp he with hg | ⟨-, hr⟩
    · obtain ⟨y, hy⟩ := h.err_some e hg
      exact ⟨y, List.mem_append_left _ hy⟩
    · exact ⟨x, by simp [hr]⟩
  limit_eq := h.limit_eq
  bound n hn := by
    have := h.bound n hn
    simp only [hl, List.length_append, List.length_cons] at this ⊢
    omega

/-- Every step keeps the invariant. -/
theorem Inv.step (h : Inv items limit g) {g' : Group α} (hs : Step g g') :
    Inv items limit g' := by
  cases hs with
  | launch hp hfree => exact inv_launch h hp hfree
  | call pre post x hl => exact inv_call h hl
  | ret pre post x r hl => exact inv_ret h r hl
  | done pre post x r hl => exact inv_done h hl

end Step

/-- The invariant holds at every state of every interleaving. -/
theorem Reach.inv {items : List α} {limit : Option ℕ+} {g : Group α}
    (h : Reach items limit g) : Inv items limit g := by
  induction h with
  | refl => exact inv_start items limit
  | tail _ hs ih => exact ih.step hs

/-- At every point, the calls made are among the items: none is called more often than it
occurs. -/
theorem Inv.calls_subperm {items : List α} {limit : Option ℕ+} {g : Group α}
    (h : Inv items limit g) : g.calls.Subperm items := by
  have hlive : ((g.live.filter fun p => p.2.started).map Prod.fst).Sublist
      (g.live.map Prod.fst) := (List.filter_sublist _).map _
  exact h.calls.subperm.trans
    (((hlive.append_left _).trans (List.sublist_append_left _ _)).subperm.trans h.perm.subperm)

/-! ## Progress -/

/-- What is left to do: four moves per pending item, and three, two or one per live
goroutine according to its phase. -/
def Phase.weight : Phase → Nat
  | .ready => 3
  | .calling => 2
  | .returned _ => 1

/-- The moves left to the goroutines of `live`. -/
def liveWeight : List (α × Phase) → Nat
  | [] => 0
  | p :: ps => p.2.weight + liveWeight ps

@[simp] theorem liveWeight_append (ps qs : List (α × Phase)) :
    liveWeight (ps ++ qs) = liveWeight ps + liveWeight qs := by
  induction ps with
  | nil => simp [liveWeight]
  | cons p ps ih => simp [liveWeight, ih]; omega

/-- The number of moves left before `Wait` returns. -/
def Group.measure (g : Group α) : Nat :=
  4 * g.pending.length + liveWeight g.live

/-- Every move brings `Wait` closer. -/
theorem Step.measure_lt {g g' : Group α} (hs : Step g g') : g'.measure < g.measure := by
  cases hs with
  | launch hp _ => simp [Group.measure, hp, liveWeight, Phase.weight]; omega
  | call pre post x hl => simp [Group.measure, hl, liveWeight, Phase.weight]
  | ret pre post x r hl => simp [Group.measure, hl, liveWeight, Phase.weight]
  | done pre post x r hl => simp [Group.measure, hl, liveWeight, Phase.weight]

/-- A fan-out that is not waiting can always move. -/
theorem exists_step {g : Group α} (hw : ¬ g.Waiting) : ∃ g', Step g g' := by
  cases hl : g.live with
  | nil =>
    cases hp : g.pending with
    | nil => exact absurd ⟨hp, hl⟩ hw
    | cons x rest => exact ⟨_, .launch hp (fun n _ => by simp [hl])⟩
  | cons p post =>
    obtain ⟨x, ph⟩ := p
    have hl' : g.live = [] ++ (x, ph) :: post := hl
    cases ph with
    | ready => exact ⟨_, .call [] post x hl'⟩
    | calling => exact ⟨_, .ret [] post x none hl'⟩
    | returned r => exact ⟨_, .done [] post x r hl'⟩

/-- From any point, some interleaving reaches the return of `Wait`. -/
theorem exists_waiting (g : Group α) :
    ∃ g', Relation.ReflTransGen Step g g' ∧ g'.Waiting := by
  by_cases hw : g.Waiting
  · exact ⟨g, .refl, hw⟩
  · obtain ⟨g', hs⟩ := exists_step hw
    obtain ⟨g'', hr, hw''⟩ := exists_waiting g'
    exact ⟨g'', .head hs hr, hw''⟩
termination_by g.measure
decreasing_by exact hs.measure_lt

/-! ## The barrier -/

/-- What `Wait` has ensured once it returned `r`: every item was called exactly once and every
call has returned, and `r` is nil exactly when every call returned nil, and otherwise the error
one call returned. -/
def Group.Returned (items : List α) (g : Group α) (r : Option Err) : Prop :=
  g.calls.Perm items ∧ (g.finished.map Prod.fst).Perm items ∧
    (r = none ↔ ∀ p ∈ g.finished, p.2 = none) ∧ ∀ e, r = some e → ∃ x, (x, some e) ∈ g.finished

/-- Launch all, wait for all, for the fan-out of `items` started as `g₀`: at every point of every
interleaving, whatever each call returned, `Wait` can still return, and once it has, `Returned`
holds of what it returned. -/
def Barrier (items : List α) (g₀ : Group α) : Prop :=
  ∀ g, Relation.ReflTransGen Step g₀ g →
    (∃ g', Relation.ReflTransGen Step g g' ∧ g'.Waiting) ∧ (g.Waiting → g.Returned items g.err)

/-- When `Wait` returns, every item was called exactly once and has finished, and the result
is nil exactly when every call returned nil, and otherwise the error of a call. -/
theorem Inv.waiting {items : List α} {limit : Option ℕ+} {g : Group α}
    (h : Inv items limit g) (hw : g.Waiting) : g.Returned items g.err := by
  obtain ⟨hp, hl⟩ := hw
  have hfin : (g.finished.map Prod.fst).Perm items := by simpa [hp, hl] using h.perm
  have hcalls : g.calls.Perm (g.finished.map Prod.fst) := by simpa [hl] using h.calls
  exact ⟨hcalls.trans hfin, hfin, h.err_none, h.err_some⟩

/-- Every fan-out, for every list of items and every limit, keeps the barrier. -/
theorem start_barrier (items : List α) (limit : Option ℕ+) : Barrier items (start items limit) :=
  fun g hg => ⟨exists_waiting g, (Reach.inv hg).waiting⟩

end ErrGroup
end Storage
