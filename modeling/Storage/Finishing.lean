import Storage.Composite
import Storage.RoundTrip
import Mathlib.Data.Multiset.Basic

/-!
# Finishing transactions over every interleaving

`CommitCtx` and `RollbackCtx` of a composite transactor, and `Commit` and `Rollback` of the
transaction a composite `Begin` returns, run each child's operation in a goroutine of an
errgroup and wait for all of them; a child that is itself a composite runs its own fan-out
inside that goroutine.  The `ErrGroup` module lets the environment choose what each call
returns; here the calls run on the backend, so the goroutines of every level share one
`World`, and what a call returns is what the backend answers when it is made.

A `Proc` is such a tree of goroutines at any point, and `Proc.Step` is one move of any of
them, labelled with the driver call it makes, if any, and that call's result.  Every
move shrinks the tree (`Proc.Step.size_lt`), so no interleaving runs for ever, and some
interleaving always reaches the return (`Proc.exists_runs_done`).  Whichever one is taken, the calls made are the tree's
leaves, each once, in some order; the backend is what they leave when made one after the
other in that order; and the result is nil exactly when every call returned nil, and
otherwise the error of one of them (`Proc.Runs.complete`).

`Finish.proc` runs the transactors' and the transactions' finishing operations as such trees.
On distinct open transactions they commit, roll back or discard each exactly once and return
nil, whatever the interleaving; when two SQL leaves share the one transaction `BeginCtx`
leaves on the context, the second of them to run always fails.
-/

namespace Storage

/-- One driver call: an atomic move of the backend, with the error it returns. -/
abbrev Act := World → Option Err × World

/-- A goroutine of a finishing operation, at any point of its run: it has still to make its
one driver call; it runs an errgroup fan-out, with the items its loop has not launched, the
goroutines that hold a slot and the error `errOnce` recorded; or it returned `r`. -/
inductive Proc where
  | call (act : Act)
  | group (limit : Option ℕ+) (pending live : List Proc) (err : Option Err)
  | done (r : Option Err)

namespace Proc

/-- A call made, with what it returned. -/
abbrev Label := Act × Option Err

/-- One move of one goroutine of the tree, with the call it makes: the driver call is made;
`Go` launches the next item once a slot is free; a goroutine of the fan-out moves; a goroutine
that returned runs its deferred `done`, recording the first error and freeing the slot; or
`Wait` returns the recorded error. -/
inductive Step : Proc → World → List Label → Proc → World → Prop
  | call (act : Act) (w : World) :
      Step (.call act) w [(act, (act w).1)] (.done (act w).1) (act w).2
  | launch {limit : Option ℕ+} {q : Proc} {pending live : List Proc} {err : Option Err}
      {w : World} : (∀ n : ℕ+, limit = some n → live.length < n) →
      Step (.group limit (q :: pending) live err) w [] (.group limit pending (live ++ [q]) err) w
  | inner {limit : Option ℕ+} {pending pre post : List Proc} {q q' : Proc} {err : Option Err}
      {w w' : World} {l : List Label} : Step q w l q' w' →
      Step (.group limit pending (pre ++ q :: post) err) w l
        (.group limit pending (pre ++ q' :: post) err) w'
  | done {limit : Option ℕ+} {pending pre post : List Proc} {r err : Option Err} {w : World} :
      Step (.group limit pending (pre ++ .done r :: post) err) w []
        (.group limit pending (pre ++ post) (err.or r)) w
  | wait {limit : Option ℕ+} {err : Option Err} {w : World} :
      Step (.group limit [] [] err) w [] (.done err) w

/-- Moves one after the other, with the calls made, oldest first. -/
inductive Runs : Proc → World → List Label → Proc → World → Prop
  | refl (p : Proc) (w : World) : Runs p w [] p w
  | tail {p p₁ p₂ : Proc} {w w₁ w₂ : World} {l l₁ : List Label} :
      Runs p w l p₁ w₁ → Step p₁ w₁ l₁ p₂ w₂ → Runs p w (l ++ l₁) p₂ w₂

theorem Runs.single {p p' : Proc} {w w' : World} {l : List Label} (h : Step p w l p' w') :
    Runs p w l p' w' := by
  simpa using (Runs.refl p w).tail h

theorem Runs.head {p p₁ p₂ : Proc} {w w₁ w₂ : World} {l l₁ : List Label}
    (hs : Step p w l p₁ w₁) (h : Runs p₁ w₁ l₁ p₂ w₂) : Runs p w (l ++ l₁) p₂ w₂ := by
  induction h with
  | refl => simpa using Runs.single hs
  | tail _ hs' ih => simpa using (ih hs).tail hs'

/-! ## Every interleaving ends, and one always can -/

/-- A bound on the moves left: two for a call, one for a returned goroutine, and for a fan-out
two, one per item not launched, and its goroutines' own. -/
def size : Proc → Nat
  | .call _ => 2
  | .group _ pending live _ => 2 + sizeAll pending + pending.length + sizeAll live
  | .done _ => 1
where
  /-- The bounds of a list of goroutines, added up. -/
  sizeAll : List Proc → Nat
    | [] => 0
    | p :: ps => p.size + sizeAll ps

@[simp] theorem sizeAll_append (ps qs : List Proc) :
    size.sizeAll (ps ++ qs) = size.sizeAll ps + size.sizeAll qs := by
  induction ps with
  | nil => simp [size.sizeAll]
  | cons p ps ih => simp [size.sizeAll, ih]; omega

/-- Every move brings the return closer. -/
theorem Step.size_lt {p p' : Proc} {w w' : World} {l : List Label} (h : Step p w l p' w') :
    p'.size < p.size := by
  induction h <;> simp only [size, size.sizeAll, sizeAll_append, List.length_cons] <;> omega

/-- A goroutine tree that has not returned can always move: a returned goroutine runs its
`done`, another one moves, the loop launches, or `Wait` returns. -/
theorem exists_step : ∀ (p : Proc), (∀ r, p ≠ .done r) → ∀ w : World,
    ∃ l p' w', Step p w l p' w'
  | .call act, _, w => ⟨_, _, _, .call act w⟩
  | .done r, h, _ => absurd rfl (h r)
  | .group _ [] [] _, _, _ => ⟨_, _, _, .wait⟩
  | .group _ (_ :: _) [] _, _, _ => ⟨_, _, _, .launch fun n _ => n.pos⟩
  | .group _ _ (.done r :: post) _, _, _ => ⟨_, _, _, @Step.done _ _ [] _ _ _ _⟩
  | .group _ _ (.call act :: post) _, _, w =>
    ⟨_, _, _, @Step.inner _ _ [] _ _ _ _ _ _ _ (.call act w)⟩
  | .group l ps (.group l' ps' live' e' :: post) e, _, w => by
    obtain ⟨_, _, _, hs⟩ := exists_step (.group l' ps' live' e') (fun _ => nofun) w
    exact ⟨_, _, _, @Step.inner _ _ [] _ _ _ _ _ _ _ hs⟩

/-- From any point, some interleaving reaches the return. -/
theorem exists_runs_done (p : Proc) (w : World) : ∃ l r w', Runs p w l (.done r) w' := by
  by_cases hd : ∃ r, p = .done r
  · obtain ⟨r, rfl⟩ := hd
    exact ⟨[], r, w, .refl _ _⟩
  · obtain ⟨l, p', w', hs⟩ := exists_step p (fun r h => hd ⟨r, h⟩) w
    obtain ⟨l', r, w'', hr⟩ := exists_runs_done p' w'
    exact ⟨_, r, w'', Runs.head hs hr⟩
termination_by p.size
decreasing_by exact hs.size_lt

/-! ## What a run does -/

/-- The driver calls `acts` made one after the other from `w`: what each returned, and the
backend after the last. -/
def runActs : List Act → World → List (Option Err) × World
  | [], w => ([], w)
  | act :: acts, w => ((act w).1 :: (runActs acts (act w).2).1, (runActs acts (act w).2).2)

theorem runActs_append (a b : List Act) (w : World) :
    runActs (a ++ b) w =
      ((runActs a w).1 ++ (runActs b (runActs a w).2).1, (runActs b (runActs a w).2).2) := by
  induction a generalizing w with
  | nil => rfl
  | cons act a ih => simp [runActs, ih]

/-- A move makes its calls on the backend it starts from, and leaves what they leave. -/
theorem Step.runActs_eq {p p' : Proc} {w w' : World} {l : List Label}
    (h : Step p w l p' w') : runActs (l.map Prod.fst) w = (l.map Prod.snd, w') := by
  induction h with
  | call => rfl
  | inner _ ih => exact ih
  | launch | done | wait => rfl

/-- The driver calls the tree has still to make: its goroutines', then those of the items
not launched. -/
def todo : Proc → List Act
  | .call act => [act]
  | .group _ pending live _ => todoAll live ++ todoAll pending
  | .done _ => []
where
  /-- The calls a list of goroutines has still to make. -/
  todoAll : List Proc → List Act
    | [] => []
    | p :: ps => p.todo ++ todoAll ps

@[simp] theorem todoAll_append (ps qs : List Proc) :
    todo.todoAll (ps ++ qs) = todo.todoAll ps ++ todo.todoAll qs := by
  induction ps with
  | nil => rfl
  | cons p ps ih => simp [todo.todoAll, ih]

/-- A move makes calls the tree had still to make, and leaves the others to make. -/
theorem Step.todo_eq {p p' : Proc} {w w' : World} {l : List Label} (h : Step p w l p' w') :
    (p.todo : Multiset Act) = ↑(l.map Prod.fst) + ↑p'.todo := by
  induction h with
  | call => rfl
  | launch => simp [todo, todo.todoAll]
  | inner _ ih =>
    simp only [todo, todoAll_append, todo.todoAll, ← Multiset.coe_add, ih]
    ac_rfl
  | done => simp [todo, todo.todoAll]
  | wait => rfl

/-! ## What the recorded error accounts for -/

/-- `r` is what `errOnce` leaves after calls that returned `m`: nil exactly when all of them
returned nil, and otherwise one of their errors. -/
def Summary (r : Option Err) (m : Multiset (Option Err)) : Prop :=
  (r = none ↔ ∀ x ∈ m, x = none) ∧ ∀ e, r = some e → some e ∈ m

theorem summary_zero : Summary none 0 := by simp [Summary]

theorem summary_singleton (r : Option Err) : Summary r {r} := by
  cases r <;> simp [Summary]

/-- Recording the first error of two groups of calls. -/
theorem Summary.or {a b : Option Err} {m n : Multiset (Option Err)} (ha : Summary a m)
    (hb : Summary b n) : Summary (a.or b) (m + n) := by
  constructor
  · rw [Option.or_eq_none, ha.1, hb.1]
    simp only [Multiset.mem_add]
    exact ⟨fun ⟨h₁, h₂⟩ x hx => hx.elim (h₁ x) (h₂ x),
      fun h => ⟨fun x hx => h x (.inl hx), fun x hx => h x (.inr hx)⟩⟩
  · intro e he
    rcases Option.or_eq_some.mp he with h | ⟨-, h⟩
    · exact Multiset.mem_add.mpr (.inl (ha.2 e h))
    · exact Multiset.mem_add.mpr (.inr (hb.2 e h))

mutual

/-- The calls a goroutine has made returned `m`, and what it recorded or returned accounts for
them; the items its loops have not launched have made none. -/
inductive Accounts : Proc → Multiset (Option Err) → Prop
  | call (act : Act) : Accounts (.call act) 0
  | done {r : Option Err} {m : Multiset (Option Err)} : Summary r m → Accounts (.done r) m
  | group {limit : Option ℕ+} {pending live : List Proc} {err : Option Err}
      {mf ml : Multiset (Option Err)} : (∀ q ∈ pending, Accounts q 0) → Summary err mf →
      AccountsAll live ml → Accounts (.group limit pending live err) (mf + ml)

/-- The same for a list of goroutines, their calls' results put together. -/
inductive AccountsAll : List Proc → Multiset (Option Err) → Prop
  | nil : AccountsAll [] 0
  | cons {p : Proc} {ps : List Proc} {m ms : Multiset (Option Err)} :
      Accounts p m → AccountsAll ps ms → AccountsAll (p :: ps) (m + ms)

end

theorem AccountsAll.append {ps qs : List Proc} {m n : Multiset (Option Err)}
    (hp : AccountsAll ps m) (hq : AccountsAll qs n) : AccountsAll (ps ++ qs) (m + n) := by
  induction ps generalizing m with
  | nil => cases hp; simpa using hq
  | cons p ps ih =>
    cases hp with
    | cons h hrest => simpa [add_assoc] using AccountsAll.cons h (ih hrest)

theorem AccountsAll.of_append {ps qs : List Proc} {m : Multiset (Option Err)}
    (h : AccountsAll (ps ++ qs) m) :
    ∃ m₁ m₂, m = m₁ + m₂ ∧ AccountsAll ps m₁ ∧ AccountsAll qs m₂ := by
  induction ps generalizing m with
  | nil => exact ⟨0, m, by simp, .nil, h⟩
  | cons p ps ih =>
    cases h with
    | cons hp hrest =>
      obtain ⟨m₁, m₂, rfl, h₁, h₂⟩ := ih hrest
      exact ⟨_, m₂, (add_assoc _ _ _).symm, .cons hp h₁, h₂⟩

theorem Accounts.congr {p : Proc} {m n : Multiset (Option Err)} (h : Accounts p m) (e : m = n) :
    Accounts p n := e ▸ h

theorem Accounts.group_inv {limit : Option ℕ+} {pending live : List Proc} {err : Option Err}
    {m : Multiset (Option Err)} (h : Accounts (.group limit pending live err) m) :
    ∃ mf ml, m = mf + ml ∧ (∀ q ∈ pending, Accounts q 0) ∧ Summary err mf ∧
      AccountsAll live ml := by
  cases h
  exact ⟨_, _, rfl, ‹_›, ‹_›, ‹_›⟩

theorem AccountsAll.cons_inv {p : Proc} {ps : List Proc} {m : Multiset (Option Err)}
    (h : AccountsAll (p :: ps) m) : ∃ m₁ m₂, m = m₁ + m₂ ∧ Accounts p m₁ ∧ AccountsAll ps m₂ := by
  cases h
  exact ⟨_, _, rfl, ‹_›, ‹_›⟩

/-- A move keeps the accounts, with the result of the call it makes added. -/
theorem Step.accounts {p p' : Proc} {w w' : World} {l : List Label} (h : Step p w l p' w')
    {m : Multiset (Option Err)} (hm : Accounts p m) : Accounts p' (m + ↑(l.map Prod.snd)) := by
  induction h generalizing m with
  | call act w =>
    cases hm
    simpa using Accounts.done (summary_singleton _)
  | launch =>
    obtain ⟨mf, ml, rfl, hpend, hf, hl⟩ := hm.group_inv
    simpa using Accounts.group (fun q hq => hpend q (.tail _ hq)) hf
      (hl.append (.cons (hpend _ (.head _)) .nil))
  | inner _ ih =>
    obtain ⟨mf, ml, rfl, hpend, hf, hl⟩ := hm.group_inv
    obtain ⟨m₁, m₂, rfl, hpre, hrest⟩ := hl.of_append
    obtain ⟨mq, mpost, rfl, hq, hpost⟩ := hrest.cons_inv
    exact (Accounts.group hpend hf (hpre.append (.cons (ih hq) hpost))).congr (by ac_rfl)
  | done =>
    obtain ⟨mf, ml, rfl, hpend, hf, hl⟩ := hm.group_inv
    obtain ⟨m₁, m₂, rfl, hpre, hrest⟩ := hl.of_append
    obtain ⟨mr, mpost, rfl, hr, hpost⟩ := hrest.cons_inv
    cases hr with
    | done hr =>
      exact (Accounts.group hpend (hf.or hr) (hpre.append hpost)).congr (by simp; ac_rfl)
  | wait =>
    obtain ⟨mf, ml, rfl, -, hf, hl⟩ := hm.group_inv
    cases hl
    simpa using Accounts.done hf

/-- Along a run: the accounts with every result added, the calls made taken from those the
tree had to make, and the backend threaded through the calls in order. -/
theorem Runs.invariant {p p' : Proc} {w w' : World} {l : List Label} (h : Runs p w l p' w')
    (hp : Accounts p 0) :
    Accounts p' ↑(l.map Prod.snd) ∧ (p.todo : Multiset Act) = ↑(l.map Prod.fst) + ↑p'.todo ∧
      runActs (l.map Prod.fst) w = (l.map Prod.snd, w') := by
  induction h with
  | refl => exact ⟨by simpa using hp, by simp, rfl⟩
  | tail _ hs ih =>
    obtain ⟨ha, ht, hw⟩ := ih
    refine ⟨by simpa using hs.accounts ha, ?_, ?_⟩
    · rw [ht, hs.todo_eq]
      simp only [List.map_append, ← Multiset.coe_add]
      ac_rfl
    · simp only [List.map_append, runActs_append, hw, hs.runActs_eq]

/-- A run of a goroutine tree that has made no call yet, to its return: the calls made are the
tree's leaves, each once, in some order; the backend is what they leave when made one after
the other in that order; and the result is nil exactly when every call returned nil, and
otherwise the error of one of them. -/
theorem Runs.complete {p : Proc} {w w' : World} {l : List Label} {r : Option Err}
    (hp : Accounts p 0) (h : Runs p w l (.done r) w') :
    (l.map Prod.fst).Perm p.todo ∧ runActs (l.map Prod.fst) w = (l.map Prod.snd, w') ∧
      (r = none ↔ ∀ x ∈ l.map Prod.snd, x = none) ∧ ∀ e, r = some e → some e ∈ l.map Prod.snd := by
  obtain ⟨ha, ht, hw⟩ := h.invariant hp
  cases ha with
  | done hs =>
    refine ⟨Multiset.coe_eq_coe.mp (ht.trans (add_zero _)).symm, hw, ?_, fun e he => ?_⟩
    · simpa only [Multiset.mem_coe] using hs.1
    · exact Multiset.mem_coe.1 (hs.2 e he)

end Proc

/-! ## Finishing distinct open handles -/

/-- What an accepted commit does to an open handle of a leaf of kind `k`: a SQL transaction is
committed, and `Exec` empties a pipeline's queue. -/
def TxKind.committed : TxKind → Handle → Handle
  | .sql, x => { x with status := .committed }
  | .redis, x => { x with pending := [] }

/-- What rolling back does to it, and what a commit the driver refuses does: a SQL transaction
drops its statements and is rolled back, and a pipeline's queue is emptied. -/
def TxKind.rolledBack : TxKind → Handle → Handle
  | .sql, x => { x with pending := [], status := .rolledBack }
  | .redis, x => { x with pending := [] }

/-- The statements a committed handle hands to its server, in the order they were sent. -/
def commitOut (x : Handle) : List (Nat × Cmd) := x.pending.map (x.conn, ·)

/-- How the leaves of one finishing operation finish an open handle of kind `k`: whether the
call asks the driver, what an accepted call does to the handle and hands to its server, and how
the leaf returns a refusal.  A refused call rolls the handle back and hands nothing over. -/
structure Finisher where
  asks : TxKind → Bool
  eff : TxKind → Handle → Handle
  out : Handle → List (Nat × Cmd)
  wrap : TxKind → Err → Err

/-- The call of a leaf of kind `k` on the open handle `h`, which holds `x`. -/
def Finisher.finish (f : Finisher) (k : TxKind) (h : Nat) (x : Handle) (w : World) :
    Option Err × World :=
  if f.asks k then
    ((w.finishWith h (f.eff k x) (k.rolledBack x) (f.out x)).1.map (f.wrap k),
      (w.finishWith h (f.eff k x) (k.rolledBack x) (f.out x)).2)
  else (none, { w with handles := w.handles.set h (f.eff k x), log := w.log ++ f.out x })

/-- A finishing call replaces the one handle it finishes. -/
theorem Finisher.finish_handles (f : Finisher) (k : TxKind) (h : Nat) (x : Handle) (w : World) :
    ∃ y, (f.finish k h x w).2.handles = w.handles.set h y := by
  unfold finish World.finishWith
  split
  · split <;> exact ⟨_, rfl⟩
  · exact ⟨_, rfl⟩

/-- `act` is the call of a leaf that finds the handle `o` names: on every backend where that
handle is open it finishes it as `f` says, and it does nothing when `o` names none. -/
def Finishes (f : Finisher) (act : Act) : Option (TxKind × Nat) → Prop
  | none => ∀ w, act w = (none, w)
  | some (k, h) => ∀ w x, w.handles[h]? = some x → x.status = .active → act w = f.finish k h x w

/-- `w'` is what finishing the handles `ps` one after the other leaves from `w`, each open when
its turn comes, the calls returning `rs`. -/
inductive FinishedIn (f : Finisher) :
    List (TxKind × Nat) → List (Option Err) → World → World → Prop
  | nil (w : World) : FinishedIn f [] [] w w
  | cons {k : TxKind} {h : Nat} {x : Handle} {ps : List (TxKind × Nat)} {rs : List (Option Err)}
      {w w' : World} : w.handles[h]? = some x → x.status = .active →
      FinishedIn f ps rs (f.finish k h x w).2 w' →
      FinishedIn f ((k, h) :: ps) ((f.finish k h x w).1 :: rs) w w'

/-- A finishing operation that returned `r` from `w`, leaving `w'`, finished the handles `hs`,
each exactly once: its calls finished them one after the other in some order, and `r` is nil
exactly when all of those calls returned nil, and otherwise the error one of them returned. -/
def Finished (f : Finisher) (hs : List (TxKind × Nat)) (w : World) (r : Option Err)
    (w' : World) : Prop :=
  ∃ ps rs, ps.Perm hs ∧ FinishedIn f ps rs w w' ∧ (r = none ↔ ∀ x ∈ rs, x = none) ∧
    ∀ e, r = some e → some e ∈ rs

/-- `w'` is `w` with the handles `ps` rolled back and `n` driver answers taken: nothing handed
to a server, and the other handles as they were. -/
structure RolledBackIn (ps : List (TxKind × Nat)) (n : Nat) (w w' : World) : Prop where
  refusals : w'.refusals = w.refusals.drop n
  rolledBack : ∀ p ∈ ps, w'.handles[p.2]? = (w.handles[p.2]?).map p.1.rolledBack
  others : ∀ h, h ∉ ps.map Prod.snd → w'.handles[h]? = w.handles[h]?
  log : w'.log = w.log

instance World.decidableIsActive (w : World) (h : Nat) : Decidable (w.IsActive h) :=
  decidable_of_iff ((w.handles[h]?).map (·.status) = some .active) (by simp [World.IsActive])

theorem all_none_iff {l : List (Option Err)} : (∀ x ∈ l, x = none) ↔ ∀ e, some e ∉ l :=
  ⟨fun h e he => Option.some_ne_none e (h _ he), fun h x hx => by
    cases x with
    | none => rfl
    | some e => exact absurd hx (h e)⟩

section Finisher

variable {f : Finisher}

/-- A call that rolls back and hands nothing over leaves the same handle whatever the driver
answers, and takes an answer exactly when it asks. -/
theorem Finisher.finish_of_rolledBack (heff : ∀ k, f.eff k = k.rolledBack)
    (hout : ∀ x, f.out x = []) (k : TxKind) (h : Nat) (x : Handle) (w : World) :
    (f.finish k h x w).2 =
      { w with handles := w.handles.set h (k.rolledBack x),
               refusals := if f.asks k then w.refusals.tail else w.refusals } := by
  unfold finish World.finishWith
  by_cases ha : f.asks k <;> simp only [ha, heff, hout, if_true, if_false, List.append_nil]
  · split <;> rfl
  · rfl

/-- Finishing in order, each call rolling back and handing nothing over: whatever the order
and whatever the driver answered, the handles are rolled back and one answer is taken per call
that asks. -/
theorem FinishedIn.rolledBackIn (heff : ∀ k, f.eff k = k.rolledBack)
    (hout : ∀ x, f.out x = []) {ps : List (TxKind × Nat)} {rs : List (Option Err)} {w w' : World}
    (h : FinishedIn f ps rs w w') (hnd : (ps.map Prod.snd).Nodup) :
    RolledBackIn ps (ps.countP fun p => f.asks p.1) w w' := by
  induction h with
  | nil w => exact ⟨by simp, by simp, fun _ _ => rfl, rfl⟩
  | @cons k h x ps rs w w' hx _ _ ih =>
    simp only [List.map_cons, List.nodup_cons] at hnd
    obtain ⟨href, hrb, hoth, hlog⟩ := ih hnd.2
    have hw₁ := f.finish_of_rolledBack heff hout k h x w
    have hne : ∀ p ∈ ps, h ≠ p.2 := fun p hp he => hnd.1 (List.mem_map.2 ⟨p, hp, he.symm⟩)
    have hlt : h < w.handles.length := (List.getElem?_eq_some_iff.1 hx).1
    refine ⟨?_, ?_, fun h' hh' => ?_, by rw [hlog, hw₁]⟩
    · rw [href, hw₁, List.countP_cons]
      by_cases ha : f.asks k <;> simp [ha, List.drop_tail, add_comm]
    · rintro p (_ | ⟨_, hp⟩)
      · simp [hoth h hnd.1, hw₁, hlt, hx]
      · simp [hrb p hp, hw₁, List.getElem?_set_ne (hne p hp)]
    · simp only [List.map_cons, List.mem_cons, not_or] at hh'
      simp [hoth h' hh'.2, hw₁, List.getElem?_set_ne (Ne.symm hh'.1)]

theorem RolledBackIn.perm {ps qs : List (TxKind × Nat)} {n : Nat} {w w' : World}
    (hpq : ps.Perm qs) (h : RolledBackIn ps n w w') : RolledBackIn qs n w w' :=
  ⟨h.refusals, fun p hp => h.rolledBack p (hpq.mem_iff.2 hp),
    fun h' hh => h.others h' fun hm => hh ((hpq.map _).mem_iff.1 hm), h.log⟩

/-- A finishing of distinct handles whose every call rolls back and hands nothing over, in
whatever order it made them: the handles are rolled back and one answer is taken per call that
asks. -/
theorem Finished.rolledBackIn (heff : ∀ k, f.eff k = k.rolledBack) (hout : ∀ x, f.out x = [])
    {hs : List (TxKind × Nat)} {w : World} {r : Option Err} {w' : World}
    (h : Finished f hs w r w') (hnd : (hs.map Prod.snd).Nodup) :
    RolledBackIn hs (hs.countP fun p => f.asks p.1) w w' := by
  obtain ⟨ps, rs, hps, hfin, -⟩ := h
  exact (hps.countP_eq _ ▸ hfin.rolledBackIn heff hout ((hps.map _).nodup_iff.2 hnd)).perm hps

/-- Leaf calls on distinct open handles, made one after the other: they finish the handles in
the order made, and return the errors those calls returned. -/
theorem runActs_finishes : ∀ (items : List (Act × Option (TxKind × Nat))) (w : World),
    (∀ i ∈ items, Finishes f i.1 i.2) → ((items.filterMap Prod.snd).map Prod.snd).Nodup →
    (∀ p ∈ items.filterMap Prod.snd, w.IsActive p.2) →
    ∃ rs, FinishedIn f (items.filterMap Prod.snd) rs w (Proc.runActs (items.map Prod.fst) w).2 ∧
      ∀ e, some e ∈ (Proc.runActs (items.map Prod.fst) w).1 ↔ some e ∈ rs
  | [], w, _, _, _ => ⟨[], .nil w, by simp [Proc.runActs]⟩
  | (act, none) :: items, w, hf, hnd, hact => by
    have h0 : act w = (none, w) := hf _ (.head _) w
    obtain ⟨rs, hfin, hmem⟩ := runActs_finishes items w (fun i hi => hf i (.tail _ hi)) hnd hact
    exact ⟨rs, by simpa [Proc.runActs, h0] using hfin, by simpa [Proc.runActs, h0] using hmem⟩
  | (act, some (k, h)) :: items, w, hf, hnd, hact => by
    obtain ⟨x, hx, ha⟩ := hact (k, h) (.head _)
    have h1 : act w = f.finish k h x w := hf _ (.head _) w x hx ha
    simp only [List.filterMap_cons, List.map_cons, List.nodup_cons] at hnd
    obtain ⟨y, hy⟩ := f.finish_handles k h x w
    obtain ⟨rs, hfin, hmem⟩ := runActs_finishes items (f.finish k h x w).2
      (fun i hi => hf i (.tail _ hi)) hnd.2 fun p hp => by
        have hne : h ≠ p.2 := fun he => hnd.1 (List.mem_map.2 ⟨p, hp, he.symm⟩)
        simpa [World.IsActive, hy, List.getElem?_set_ne hne] using hact p (.tail _ hp)
    refine ⟨(f.finish k h x w).1 :: rs, ?_, fun e => ?_⟩
    · simpa [Proc.runActs, h1] using FinishedIn.cons hx ha hfin
    · simp [Proc.runActs, h1, hmem]

end Finisher

/-- A list that is a permutation of the images of a list is the image of a permutation of it. -/
theorem exists_perm_of_perm_map {α β : Type} (f : α → β) {l₁ : List β} {l : List α}
    (h : l₁.Perm (l.map f)) : ∃ π : List α, π.Perm l ∧ l₁ = π.map f := by
  generalize hl : l.map f = l₂ at h
  induction h generalizing l with
  | nil => exact ⟨[], by simpa using hl.symm, rfl⟩
  | cons x _ ih =>
    obtain ⟨a, l', rfl, rfl, rfl⟩ := List.map_eq_cons_iff.1 hl
    obtain ⟨π, hπ, rfl⟩ := ih rfl
    exact ⟨a :: π, hπ.cons a, rfl⟩
  | swap x y _ =>
    obtain ⟨a, l', rfl, rfl, hl'⟩ := List.map_eq_cons_iff.1 hl
    obtain ⟨b, l'', rfl, rfl, rfl⟩ := List.map_eq_cons_iff.1 hl'
    exact ⟨b :: a :: l'', .swap a b l'', rfl⟩
  | trans _ _ ih₁ ih₂ =>
    obtain ⟨π₂, hπ₂, rfl⟩ := ih₂ hl
    obtain ⟨π₁, hπ₁, rfl⟩ := ih₁ rfl
    exact ⟨π₁, hπ₁.trans hπ₂, rfl⟩

/-! ## The finishing operations of the transactors -/

namespace Sql

theorem commitCtx_of_getTx {ctx : Context} {tx : Nat} (hg : getTx ctx = some tx) (w : World) :
    commitCtx ctx w = ((w.commit tx).1.map errTransactorCommit, (w.commit tx).2) := by
  simp only [commitCtx, hg]
  split <;> simp_all

theorem rollbackCtx_of_getTx {ctx : Context} {tx : Nat} (hg : getTx ctx = some tx) (w : World) :
    rollbackCtx ctx w = ((w.rollback tx).1.map errTransactorRollback, (w.rollback tx).2) := by
  simp only [rollbackCtx, hg]
  split <;> simp_all

end Sql

namespace TxKind

/-- The call a leaf of this kind makes in `CommitCtx(ctx)`. -/
def commitCtx : TxKind → Context → Act
  | .sql => Sql.commitCtx
  | .redis => Redis.commitCtx

/-- The call a leaf of this kind makes in `RollbackCtx(ctx)`. -/
def rollbackCtx : TxKind → Context → Act
  | .sql => Sql.rollbackCtx
  | .redis => Redis.rollbackCtx

/-- The call a leaf transaction of this kind makes in `Commit`: `tx.Commit()`, or `Exec`. -/
def commit : TxKind → Nat → Act
  | .sql => fun tx w => w.commit tx
  | .redis => fun tx w => w.exec tx

/-- The call it makes in `Rollback`: `tx.Rollback()`, or `Discard`. -/
def rollback : TxKind → Nat → Act
  | .sql => fun tx w => w.rollback tx
  | .redis => fun tx w => (none, w.discard tx)

/-- What a leaf of this kind finds on `ctx`, with its kind. -/
def found (k : TxKind) (ctx : Context) : Option (TxKind × Nat) := (k.getTx ctx).map (k, ·)

/-- `CommitCtx`: both kinds ask the driver; the SQL transactor wraps a refusal in
`ErrTransactorCommit`, the Redis one returns what `Exec` returns. -/
def commitCtxFinisher : Finisher where
  asks _ := true
  eff := committed
  out := commitOut
  wrap
    | .sql => errTransactorCommit
    | .redis => id

/-- `Commit` of a leaf transaction: both kinds ask the driver and return its refusal as it
is. -/
def commitFinisher : Finisher where
  asks _ := true
  eff := committed
  out := commitOut
  wrap _ := id

/-- `RollbackCtx`: only a SQL leaf asks the driver, and wraps a refusal in
`ErrTransactorRollback`; `Discard` asks nothing. -/
def rollbackCtxFinisher : Finisher where
  asks k := k == .sql
  eff := rolledBack
  out _ := []
  wrap
    | .sql => errTransactorRollback
    | .redis => id

/-- `Rollback` of a leaf transaction: only a SQL leaf asks the driver. -/
def rollbackFinisher : Finisher where
  asks k := k == .sql
  eff := rolledBack
  out _ := []
  wrap _ := id

theorem finishes_commitCtx (k : TxKind) (ctx : Context) :
    Finishes commitCtxFinisher (k.commitCtx ctx) (k.found ctx) := by
  cases hg : k.getTx ctx with
  | none => cases k <;> simp [found, hg, commitCtx, Sql.commitCtx, Redis.commitCtx, Finishes,
      Sql.getTx, Redis.getTx]
  | some h =>
    rw [show k.found ctx = some (k, h) by simp [found, hg]]
    intro w x hx ha
    cases k with
    | sql =>
      rw [commitCtx, Sql.commitCtx_of_getTx hg, World.commit_of_active hx ha]
      rfl
    | redis =>
      simp [commitCtx, Redis.commitCtx, Redis.getTx, hg, World.exec_of_some hx, Finisher.finish,
        commitCtxFinisher, committed, rolledBack, commitOut]

theorem finishes_rollbackCtx (k : TxKind) (ctx : Context) :
    Finishes rollbackCtxFinisher (k.rollbackCtx ctx) (k.found ctx) := by
  cases hg : k.getTx ctx with
  | none => cases k <;> simp [found, hg, rollbackCtx, Sql.rollbackCtx, Redis.rollbackCtx,
      Finishes, Sql.getTx, Redis.getTx]
  | some h =>
    rw [show k.found ctx = some (k, h) by simp [found, hg]]
    intro w x hx ha
    cases k with
    | sql =>
      rw [rollbackCtx, Sql.rollbackCtx_of_getTx hg, World.rollback_of_active hx ha]
      rfl
    | redis =>
      simp [rollbackCtx, Redis.rollbackCtx, Redis.getTx, hg, World.discard, hx, Finisher.finish,
        rollbackCtxFinisher, rolledBack, World.setHandle]

theorem finishes_commit (k : TxKind) (h : Nat) :
    Finishes commitFinisher (k.commit h) (some (k, h)) := by
  intro w x hx ha
  cases k with
  | sql => simp [commit, World.commit_of_active hx ha, Finisher.finish, commitFinisher, committed,
      rolledBack, commitOut]
  | redis => simp [commit, World.exec_of_some hx, Finisher.finish, commitFinisher, committed,
      rolledBack, commitOut]

theorem finishes_rollback (k : TxKind) (h : Nat) :
    Finishes rollbackFinisher (k.rollback h) (some (k, h)) := by
  intro w x hx ha
  cases k with
  | sql => simp [rollback, World.rollback_of_active hx ha, Finisher.finish, rollbackFinisher,
      rolledBack]
  | redis => simp [rollback, World.discard, hx, Finisher.finish, rollbackFinisher, rolledBack,
      World.setHandle]

end TxKind

namespace Transactor

/-- The goroutine running a finishing operation on the tree, `leaf` being the call a leaf
makes: a leaf makes its call, and a composite fans out over its children with no limit. -/
def finishProc (leaf : TxKind → Context → Act) : Transactor → Context → Proc
  | .sql _, ctx => .call (leaf .sql ctx)
  | .redis _, ctx => .call (leaf .redis ctx)
  | .composite ts, ctx => .group none (finishProcs leaf ts ctx) [] none
where
  /-- The goroutines of a composite's fan-out. -/
  finishProcs (leaf : TxKind → Context → Act) : List Transactor → Context → List Proc
    | [], _ => []
    | t :: ts, ctx => t.finishProc leaf ctx :: finishProcs leaf ts ctx

/-- The transactions `CommitCtx(ctx)` and `RollbackCtx(ctx)` finish: what each leaf's `GetTx`
finds on `ctx`, with the leaf's kind, in leaf order. -/
def found (t : Transactor) (ctx : Context) : List (TxKind × Nat) :=
  t.kinds.filterMap (·.found ctx)

theorem found_snd (t : Transactor) (ctx : Context) :
    (t.found ctx).map Prod.snd = t.finishes ctx := by
  simp [found, finishes_eq, List.map_filterMap, TxKind.found, Option.map_map, Function.comp_def]

end Transactor

namespace Transaction

/-- The leaf transactions, with their kinds, in order. -/
def handles : Transaction → List (TxKind × Nat)
  | .sql tx _ => [(.sql, tx)]
  | .redis tx _ => [(.redis, tx)]
  | .composite txs => handlesAll txs
where
  /-- The leaves of a list of transactions. -/
  handlesAll : List Transaction → List (TxKind × Nat)
    | [] => []
    | tx :: txs => tx.handles ++ handlesAll txs

/-- The goroutine running a finishing operation of the transaction, `leaf` being the call a
leaf makes: a leaf makes its call, and a composite fans out over its children with no limit. -/
def finishProc (leaf : TxKind → Nat → Act) : Transaction → Proc
  | .sql tx _ => .call (leaf .sql tx)
  | .redis tx _ => .call (leaf .redis tx)
  | .composite txs => .group none (finishProcs leaf txs) [] none
where
  /-- The goroutines of a composite's fan-out. -/
  finishProcs (leaf : TxKind → Nat → Act) : List Transaction → List Proc
    | [] => []
    | tx :: txs => tx.finishProc leaf :: finishProcs leaf txs

end Transaction

/-- The goroutine that runs one invocation of a composite's fan-out. -/
def Invocation.proc : Invocation → Proc
  | .commitCtx t ctx => t.finishProc TxKind.commitCtx ctx
  | .rollbackCtx t ctx => t.finishProc TxKind.rollbackCtx ctx
  | .commit tx _ => tx.finishProc TxKind.commit
  | .rollback tx _ => tx.finishProc TxKind.rollback

/-- A finishing operation about to run, as a goroutine tree: a leaf's call, or a fan-out whose
goroutines run the invocations its loop launches. -/
def Finish.proc : Finish → Proc
  | .call act => .call act
  | .fanOut g => .group g.limit (g.pending.map Invocation.proc) [] g.err

namespace Transactor

theorem finishProcs_eq (leaf : TxKind → Context → Act) :
    ∀ (ts : List Transactor) (ctx : Context),
      finishProc.finishProcs leaf ts ctx = ts.map (finishProc leaf · ctx)
  | [], _ => rfl
  | t :: ts, ctx => by simp [finishProc.finishProcs, finishProcs_eq leaf ts ctx]

/-- `CommitCtx` runs as its goroutine tree. -/
theorem commitCtx_proc (t : Transactor) (ctx : Context) :
    (t.commitCtx ctx).proc = t.finishProc TxKind.commitCtx ctx := by
  cases t <;> simp [commitCtx, Finish.proc, ErrGroup.start, finishProc, finishProcs_eq,
    Invocation.proc, TxKind.commitCtx]

/-- `RollbackCtx` runs as its goroutine tree. -/
theorem rollbackCtx_proc (t : Transactor) (ctx : Context) :
    (t.rollbackCtx ctx).proc = t.finishProc TxKind.rollbackCtx ctx := by
  cases t <;> simp [rollbackCtx, Finish.proc, ErrGroup.start, finishProc, finishProcs_eq,
    Invocation.proc, TxKind.rollbackCtx]

mutual

/-- The calls of the tree's goroutines are its leaves' calls, in leaf order. -/
theorem todo_finishProc (leaf : TxKind → Context → Act) : ∀ (t : Transactor) (ctx : Context),
    (t.finishProc leaf ctx).todo = t.kinds.map (leaf · ctx)
  | .sql _, _ | .redis _, _ => rfl
  | .composite ts, ctx => by
    simp [finishProc, Proc.todo, Proc.todo.todoAll, todoAll_finishProcs leaf ts ctx]

theorem todoAll_finishProcs (leaf : TxKind → Context → Act) :
    ∀ (ts : List Transactor) (ctx : Context),
      Proc.todo.todoAll (finishProc.finishProcs leaf ts ctx) = (kinds.kindsAll ts).map (leaf · ctx)
  | [], _ => rfl
  | t :: ts, ctx => by
    simp [finishProc.finishProcs, Proc.todo.todoAll, todo_finishProc leaf t ctx,
      todoAll_finishProcs leaf ts ctx]

end

mutual

/-- Before it runs, the tree has made no call. -/
theorem accounts_finishProc (leaf : TxKind → Context → Act) : ∀ (t : Transactor) (ctx : Context),
    (t.finishProc leaf ctx).Accounts 0
  | .sql _, _ | .redis _, _ => .call _
  | .composite ts, ctx =>
    (Proc.Accounts.group (fresh_finishProcs leaf ts ctx) Proc.summary_zero .nil).congr (add_zero 0)

theorem fresh_finishProcs (leaf : TxKind → Context → Act) :
    ∀ (ts : List Transactor) (ctx : Context), ∀ q ∈ finishProc.finishProcs leaf ts ctx, q.Accounts 0
  | [], _, _, hq => nomatch hq
  | t :: ts, ctx, q, hq => by
    rcases List.mem_cons.1 hq with rfl | hq
    · exact accounts_finishProc leaf t ctx
    · exact fresh_finishProcs leaf ts ctx q hq

end

end Transactor

/-- A run to the return of a goroutine tree whose leaves' calls finish distinct open handles,
or nothing: it has finished every one of those handles exactly once, in an order the
interleaving chose, and returned nil exactly when all of those calls did. -/
theorem Proc.Runs.finishes {p : Proc} {w w' : World} {l : List Label} {r : Option Err}
    {f : Finisher} (items : List (Act × Option (TxKind × Nat))) (hp : p.Accounts 0)
    (htodo : p.todo = items.map Prod.fst) (hf : ∀ i ∈ items, Finishes f i.1 i.2)
    (hnd : ((items.filterMap Prod.snd).map Prod.snd).Nodup)
    (hact : ∀ q ∈ items.filterMap Prod.snd, w.IsActive q.2) (h : p.Runs w l (.done r) w') :
    Finished f (items.filterMap Prod.snd) w r w' := by
  obtain ⟨hperm, hw, hnone, hsome⟩ := h.complete hp
  rw [htodo] at hperm
  obtain ⟨π, hπ, hσ⟩ := exists_perm_of_perm_map Prod.fst hperm
  have hps := hπ.filterMap Prod.snd
  obtain ⟨rs, hfin, hmem⟩ := runActs_finishes π w (fun i hi => hf i (hπ.mem_iff.1 hi))
    (((hπ.filterMap _).map _).nodup_iff.2 hnd) fun q hq => hact q (hps.mem_iff.1 hq)
  rw [← hσ, hw] at hfin hmem
  refine ⟨_, rs, hps, hfin, ?_, fun e he => (hmem e).1 (hsome e he)⟩
  rw [hnone, all_none_iff, all_none_iff]
  exact forall_congr' fun e => not_congr (hmem e)

namespace Transactor

/-- `CommitCtx(ctx)` and `RollbackCtx(ctx)` of any transactor tree never stop early: on every
backend and every context, some interleaving returns, and every interleaving that returns has
made each leaf's call exactly once, whatever the earlier calls returned; the backend is what
those calls leave when made one after the other in the order the interleaving made them; and
the result is nil exactly when every call returned nil, and otherwise the error one of them
returned. -/
theorem finishCtx_attempts_every_leaf (t : Transactor) (ctx : Context) (w : World) :
    ((∃ l r w', (t.commitCtx ctx).proc.Runs w l (.done r) w') ∧
      ∀ l r w', (t.commitCtx ctx).proc.Runs w l (.done r) w' →
        (l.map Prod.fst).Perm (t.kinds.map (·.commitCtx ctx)) ∧
        Proc.runActs (l.map Prod.fst) w = (l.map Prod.snd, w') ∧
        (r = none ↔ ∀ x ∈ l.map Prod.snd, x = none) ∧
        ∀ e, r = some e → some e ∈ l.map Prod.snd) ∧
    ((∃ l r w', (t.rollbackCtx ctx).proc.Runs w l (.done r) w') ∧
      ∀ l r w', (t.rollbackCtx ctx).proc.Runs w l (.done r) w' →
        (l.map Prod.fst).Perm (t.kinds.map (·.rollbackCtx ctx)) ∧
        Proc.runActs (l.map Prod.fst) w = (l.map Prod.snd, w') ∧
        (r = none ↔ ∀ x ∈ l.map Prod.snd, x = none) ∧
        ∀ e, r = some e → some e ∈ l.map Prod.snd) := by
  refine ⟨⟨Proc.exists_runs_done _ w, fun l r w' h => ?_⟩,
    ⟨Proc.exists_runs_done _ w, fun l r w' h => ?_⟩⟩
  · rw [commitCtx_proc] at h
    have hc := h.complete (accounts_finishProc _ t ctx)
    rwa [todo_finishProc] at hc
  · rw [rollbackCtx_proc] at h
    have hc := h.complete (accounts_finishProc _ t ctx)
    rwa [todo_finishProc] at hc

/-- Every run of `CommitCtx(ctx)` to its return, on a backend where the transactions the
leaves find on `ctx` are distinct and open, finished each of them exactly once. -/
theorem commitCtx_runs_finished (t : Transactor) (ctx : Context) (w : World)
    (hnd : (t.finishes ctx).Nodup) (hact : ∀ p ∈ t.found ctx, w.IsActive p.2) :
    ∀ l r w', (t.commitCtx ctx).proc.Runs w l (.done r) w' →
      Finished TxKind.commitCtxFinisher (t.found ctx) w r w' := by
  intro l r w' h
  have hitems : (t.kinds.map fun k => (k.commitCtx ctx, k.found ctx)).filterMap Prod.snd =
      t.found ctx := by simp [found, List.filterMap_map, Function.comp_def]
  rw [commitCtx_proc] at h
  exact hitems ▸ h.finishes _ (accounts_finishProc _ t ctx) (by simp [todo_finishProc])
    (by simpa using fun k _ => k.finishes_commitCtx ctx) (by rwa [hitems, found_snd])
    (hitems ▸ hact)

/-- Every run of `RollbackCtx(ctx)` likewise finished each of them exactly once, and, whatever
the order and whatever the driver answered, rolled back each SQL transaction and emptied each
pipeline's queue, taking one answer per SQL transaction. -/
theorem rollbackCtx_runs_finished (t : Transactor) (ctx : Context) (w : World)
    (hnd : (t.finishes ctx).Nodup) (hact : ∀ p ∈ t.found ctx, w.IsActive p.2) :
    ∀ l r w', (t.rollbackCtx ctx).proc.Runs w l (.done r) w' →
      Finished TxKind.rollbackCtxFinisher (t.found ctx) w r w' ∧
        RolledBackIn (t.found ctx) ((t.found ctx).countP fun p => p.1 == .sql) w w' := by
  intro l r w' h
  have hitems : (t.kinds.map fun k => (k.rollbackCtx ctx, k.found ctx)).filterMap Prod.snd =
      t.found ctx := by simp [found, List.filterMap_map, Function.comp_def]
  rw [rollbackCtx_proc] at h
  have hf : Finished TxKind.rollbackCtxFinisher (t.found ctx) w r w' :=
    hitems ▸ h.finishes _ (accounts_finishProc _ t ctx) (by simp [todo_finishProc])
      (by simpa using fun k _ => k.finishes_rollbackCtx ctx) (by rwa [hitems, found_snd])
      (hitems ▸ hact)
  exact ⟨hf, hf.rolledBackIn (fun _ => rfl) (fun _ => rfl) (by rwa [found_snd])⟩

/-- `RollbackCtx(ctx)` likewise: every interleaving that returns has finished each of those
transactions exactly once and returned nil exactly when the driver accepted every SQL rollback,
and otherwise one leaf's error; and every one leaves the same backend, whatever the order and
whatever the driver answered: each SQL transaction rolled back and each pipeline's queue
emptied, one driver answer taken per SQL transaction, nothing handed to a server, and nothing
else changed. -/
theorem rollbackCtx_every_interleaving (t : Transactor) (ctx : Context) (w : World)
    (hnd : (t.finishes ctx).Nodup) (hact : ∀ p ∈ t.found ctx, w.IsActive p.2) :
    (∃ l r w', (t.rollbackCtx ctx).proc.Runs w l (.done r) w') ∧
      ∀ l r w', (t.rollbackCtx ctx).proc.Runs w l (.done r) w' →
        Finished TxKind.rollbackCtxFinisher (t.found ctx) w r w' ∧
          RolledBackIn (t.found ctx) ((t.found ctx).countP fun p => p.1 == .sql) w w' :=
  ⟨Proc.exists_runs_done _ w, rollbackCtx_runs_finished t ctx w hnd hact⟩

theorem rollbackCtx_every_interleaving_sql_redis :
    (∃ l r w', ((composite [.sql (.db 0), .redis (.single ⟨1⟩)]).rollbackCtx
        (Redis.setTx (Sql.setTx .background 0) 1)).proc.Runs
        ⟨[⟨.sqlTx, 0, [⟨"ExecContext", [], .result⟩], .active⟩, ⟨.txPipeline, 1, [], .active⟩],
          [], [some (.driver 1)]⟩ l (.done r) w') ∧
      ∀ l r w', ((composite [.sql (.db 0), .redis (.single ⟨1⟩)]).rollbackCtx
          (Redis.setTx (Sql.setTx .background 0) 1)).proc.Runs
          ⟨[⟨.sqlTx, 0, [⟨"ExecContext", [], .result⟩], .active⟩, ⟨.txPipeline, 1, [], .active⟩],
            [], [some (.driver 1)]⟩ l (.done r) w' →
        Finished TxKind.rollbackCtxFinisher
            ((composite [.sql (.db 0), .redis (.single ⟨1⟩)]).found
              (Redis.setTx (Sql.setTx .background 0) 1))
            ⟨[⟨.sqlTx, 0, [⟨"ExecContext", [], .result⟩], .active⟩, ⟨.txPipeline, 1, [], .active⟩],
              [], [some (.driver 1)]⟩ r w' ∧
          RolledBackIn ((composite [.sql (.db 0), .redis (.single ⟨1⟩)]).found
              (Redis.setTx (Sql.setTx .background 0) 1))
            (((composite [.sql (.db 0), .redis (.single ⟨1⟩)]).found
              (Redis.setTx (Sql.setTx .background 0) 1)).countP fun p => p.1 == .sql)
            ⟨[⟨.sqlTx, 0, [⟨"ExecContext", [], .result⟩], .active⟩, ⟨.txPipeline, 1, [], .active⟩],
              [], [some (.driver 1)]⟩ w' :=
  rollbackCtx_every_interleaving _ _ _ (by decide) (by decide)

end Transactor

namespace Transaction

theorem finishProcs_eq (leaf : TxKind → Nat → Act) :
    ∀ txs : List Transaction, finishProc.finishProcs leaf txs = txs.map (finishProc leaf)
  | [] => rfl
  | tx :: txs => by simp [finishProc.finishProcs, finishProcs_eq leaf txs]

/-- `Commit` runs as its goroutine tree. -/
theorem commit_proc (tx : Transaction) (ctx : Context) :
    (tx.commit ctx).proc = tx.finishProc TxKind.commit := by
  cases tx <;> simp [commit, Finish.proc, ErrGroup.start, finishProc, finishProcs_eq,
    Invocation.proc, TxKind.commit]

/-- `Rollback` runs as its goroutine tree. -/
theorem rollback_proc (tx : Transaction) (ctx : Context) :
    (tx.rollback ctx).proc = tx.finishProc TxKind.rollback := by
  cases tx <;> simp [rollback, Finish.proc, ErrGroup.start, finishProc, finishProcs_eq,
    Invocation.proc, TxKind.rollback]

mutual

/-- The calls of the goroutines are the leaf transactions' calls, in leaf order. -/
theorem todo_finishProc (leaf : TxKind → Nat → Act) : ∀ tx : Transaction,
    (tx.finishProc leaf).todo = tx.handles.map fun p => leaf p.1 p.2
  | .sql _ _ | .redis _ _ => rfl
  | .composite txs => by
    simp [finishProc, handles, Proc.todo, Proc.todo.todoAll, todoAll_finishProcs leaf txs]

theorem todoAll_finishProcs (leaf : TxKind → Nat → Act) : ∀ txs : List Transaction,
    Proc.todo.todoAll (finishProc.finishProcs leaf txs) =
      (handles.handlesAll txs).map fun p => leaf p.1 p.2
  | [] => rfl
  | tx :: txs => by
    simp [finishProc.finishProcs, handles.handlesAll, Proc.todo.todoAll, todo_finishProc leaf tx,
      todoAll_finishProcs leaf txs]

end

mutual

/-- Before it runs, the tree has made no call. -/
theorem accounts_finishProc (leaf : TxKind → Nat → Act) : ∀ tx : Transaction,
    (tx.finishProc leaf).Accounts 0
  | .sql _ _ | .redis _ _ => .call _
  | .composite txs =>
    (Proc.Accounts.group (fresh_finishProcs leaf txs) Proc.summary_zero .nil).congr (add_zero 0)

theorem fresh_finishProcs (leaf : TxKind → Nat → Act) :
    ∀ txs : List Transaction, ∀ q ∈ finishProc.finishProcs leaf txs, q.Accounts 0
  | [], _, hq => nomatch hq
  | tx :: txs, q, hq => by
    rcases List.mem_cons.1 hq with rfl | hq
    · exact accounts_finishProc leaf tx
    · exact fresh_finishProcs leaf txs q hq

end

end Transaction

namespace Transactor

mutual

/-- The transaction a successful `Begin` returns holds the transactions it opened, one per
leaf, with the leaf's kind, in leaf order. -/
theorem begin_handles : ∀ (t : Transactor) (ctx : Context) (w w' : World) (tx : Transaction),
    t.begin ctx w = (.ok tx, w') → tx.handles = t.opened w.handles.length
  | .sql p, ctx, w, w', tx, h => by
    have ho := p.beginTxx_opensOne ctx w
    simp only [begin] at h
    split at h <;> rename_i heq <;> rw [heq] at ho
    · cases h
    · obtain ⟨rfl, -⟩ := ho
      cases h
      rfl
  | .redis p, ctx, w, w', tx, h => by
    have ho := p.txPipeline_opensOne ctx w
    simp only [begin] at h
    split at h <;> rename_i heq <;> rw [heq] at ho
    · cases h
    · obtain ⟨rfl, -⟩ := ho
      cases h
      rfl
  | .composite ts, ctx, w, w', tx, h => by
    rcases hr : begin.beginAll ts ctx w with ⟨_ | txs, w''⟩ <;> simp [begin, hr] at h
    obtain ⟨rfl, rfl⟩ := h
    exact beginAll_handles ts ctx w _ txs hr

theorem beginAll_handles : ∀ (ts : List Transactor) (ctx : Context) (w w' : World)
    (txs : List Transaction), begin.beginAll ts ctx w = (.ok txs, w') →
      Transaction.handles.handlesAll txs = (composite ts).opened w.handles.length
  | [], _, _, _, _, h => by
    cases h
    rfl
  | t :: ts, ctx, w, w', txs, h => by
    rcases h₁ : t.begin ctx w with ⟨_ | tx, w₁⟩ <;> simp [begin.beginAll, h₁] at h
    rcases h₂ : begin.beginAll ts ctx w₁ with ⟨_ | txs', w₂⟩ <;> simp [h₂] at h
    obtain ⟨rfl, rfl⟩ := h
    have ho := begins t ctx w
    rw [h₁] at ho
    rw [Transaction.handles.handlesAll, begin_handles t ctx w w₁ tx h₁,
      beginAll_handles ts ctx w₁ _ txs' h₂, opened_composite_cons, ho.length_eq]

end

end Transactor

/-! ## Two SQL leaves on one context -/

namespace World

/-- The driver accepts every call from here on. -/
def Accepting (w : World) : Prop := ∀ a ∈ w.refusals, a = none

theorem Accepting.answer {w : World} (h : w.Accepting) : w.answer = none := by
  unfold World.answer
  cases hr : w.refusals with
  | nil => rfl
  | cons a rest => simpa using h a (by simp [hr])

theorem Accepting.finishWith {w : World} (hw : w.Accepting) (h : Nat) (ok ko : Handle)
    (out : List (Nat × Cmd)) :
    (w.finishWith h ok ko out).1 = none ∧ (w.finishWith h ok ko out).2.Accepting := by
  rw [World.finishWith, hw.answer]
  exact ⟨rfl, fun a ha => hw a (List.mem_of_mem_tail ha)⟩

/-- Where the driver accepts everything, `tx.Commit()` returns nil or `sql.ErrTxDone`, and the
driver still accepts everything after it. -/
theorem Accepting.commit {w : World} (hw : w.Accepting) (h : Nat) :
    ((w.commit h).1 = none ∨ (w.commit h).1 = some .txDone) ∧ (w.commit h).2.Accepting := by
  unfold World.commit
  split
  · split
    · exact ⟨.inl (hw.finishWith _ _ _ _).1, (hw.finishWith _ _ _ _).2⟩
    · exact ⟨.inr rfl, hw⟩
  · exact ⟨.inr rfl, hw⟩

/-- Likewise `tx.Rollback()`. -/
theorem Accepting.rollback {w : World} (hw : w.Accepting) (h : Nat) :
    ((w.rollback h).1 = none ∨ (w.rollback h).1 = some .txDone) ∧ (w.rollback h).2.Accepting := by
  unfold World.rollback
  split
  · split
    · exact ⟨.inl (hw.finishWith _ _ _ _).1, (hw.finishWith _ _ _ _).2⟩
    · exact ⟨.inr rfl, hw⟩
  · exact ⟨.inr rfl, hw⟩

/-- And `Exec` returns nil. -/
theorem Accepting.exec {w : World} (hw : w.Accepting) (h : Nat) :
    (w.exec h).1 = none ∧ (w.exec h).2.Accepting := by
  unfold World.exec
  split
  · exact hw.finishWith _ _ _ _
  · exact ⟨rfl, hw⟩

/-- Replacing a handle by one of the same status changes no handle's status. -/
theorem isActive_of_set {w w' : World} {h' : Nat} {x y : Handle} (hx : w.handles[h']? = some x)
    (hs : y.status = x.status) (hw : w'.handles = w.handles.set h' y) (h : Nat) :
    w'.IsActive h ↔ w.IsActive h := by
  by_cases he : h' = h
  · subst he
    simp [IsActive, hw, hx, hs, List.getElem?_set_self (List.getElem?_eq_some_iff.1 hx).1]
  · simp [IsActive, hw, List.getElem?_set_ne he]

/-- `Exec` changes no handle's status, whatever the driver answers. -/
theorem exec_isActive (w : World) (h' h : Nat) : (w.exec h').2.IsActive h ↔ w.IsActive h := by
  unfold exec finishWith
  split
  · rename_i x hx
    split <;> exact isActive_of_set (y := { x with pending := [] }) hx rfl rfl h
  · rfl

/-- Nor does `Discard`. -/
theorem discard_isActive (w : World) (h' h : Nat) : (w.discard h').IsActive h ↔ w.IsActive h := by
  unfold discard
  split
  · rename_i x hx
    exact isActive_of_set (y := { x with pending := [] }) hx rfl rfl h
  · rfl

/-- `tx.Commit()` on an open transaction finishes it, whatever the driver answers. -/
theorem not_isActive_commit {w : World} {h : Nat} (ha : w.IsActive h) :
    ¬ (w.commit h).2.IsActive h := by
  obtain ⟨x, hx, hs⟩ := ha
  have hlt : h < w.handles.length := (List.getElem?_eq_some_iff.1 hx).1
  rw [commit_of_active hx hs, finishWith]
  split <;> simp [IsActive, setHandle, hlt]

/-- So does `tx.Rollback()`. -/
theorem not_isActive_rollback {w : World} {h : Nat} (ha : w.IsActive h) :
    ¬ (w.rollback h).2.IsActive h := by
  obtain ⟨x, hx, hs⟩ := ha
  have hlt : h < w.handles.length := (List.getElem?_eq_some_iff.1 hx).1
  rw [rollback_of_active hx hs, finishWith]
  split <;> simp [IsActive, setHandle, hlt]

end World

namespace Redis

/-- `CommitCtx` changes no handle's status. -/
theorem commitCtx_isActive (ctx : Context) (w : World) (h : Nat) :
    (commitCtx ctx w).2.IsActive h ↔ w.IsActive h := by
  unfold commitCtx
  split
  · exact .rfl
  · exact World.exec_isActive _ _ _

/-- Nor does `RollbackCtx`. -/
theorem rollbackCtx_isActive (ctx : Context) (w : World) (h : Nat) :
    (rollbackCtx ctx w).2.IsActive h ↔ w.IsActive h := by
  unfold rollbackCtx
  split
  · exact .rfl
  · exact World.discard_isActive _ _ _

/-- Where the driver accepts everything, `CommitCtx` and `RollbackCtx` return nil. -/
theorem finishCtx_accepting {w : World} (hw : w.Accepting) (ctx : Context) :
    ((commitCtx ctx w).1 = none ∧ (commitCtx ctx w).2.Accepting) ∧
      (rollbackCtx ctx w).1 = none ∧ (rollbackCtx ctx w).2.Accepting := by
  unfold commitCtx rollbackCtx
  split
  · exact ⟨⟨rfl, hw⟩, rfl, hw⟩
  · exact ⟨hw.exec _, rfl, by simpa [World.Accepting, World.discard_refusals] using hw⟩

end Redis

section TwoLeaves

variable {leaf : TxKind → Act} {h : Nat} {E : Err}

/-- Leaf calls by kind where a SQL leaf finishes the open transaction `h` and fails with `E`
once it is finished, and a Redis leaf leaves it open or finished as it was: once two SQL leaves
have run, or one has run on a backend where `h` is already finished, some call has failed. -/
theorem exists_error_runActs (hsql : ∀ w, w.IsActive h → ¬ (leaf .sql w).2.IsActive h)
    (hfail : ∀ w, ¬ w.IsActive h → leaf .sql w = (some E, w))
    (hredis : ∀ w, (leaf .redis w).2.IsActive h ↔ w.IsActive h) :
    ∀ (π : List TxKind) (w : World), 2 ≤ π.count .sql ∨ (1 ≤ π.count .sql ∧ ¬ w.IsActive h) →
      ∃ e, some e ∈ (Proc.runActs (π.map leaf) w).1
  | [], _, hc => by simp at hc
  | .sql :: π, w, hc => by
    by_cases ha : w.IsActive h
    · cases hr : (leaf .sql w).1 with
      | some e => exact ⟨e, by simp [Proc.runActs, hr]⟩
      | none =>
        have hπ : 1 ≤ π.count .sql := by
          rcases hc with hc | ⟨-, hc⟩
          · simp only [List.count_cons_self] at hc
            omega
          · exact absurd ha hc
        obtain ⟨e, he⟩ := exists_error_runActs hsql hfail hredis π _ (.inr ⟨hπ, hsql w ha⟩)
        exact ⟨e, by simp [Proc.runActs, he]⟩
    · exact ⟨E, by simp [Proc.runActs, hfail w ha]⟩
  | .redis :: π, w, hc => by
    obtain ⟨e, he⟩ := exists_error_runActs hsql hfail hredis π (leaf .redis w).2
      (by simpa [hredis w] using hc)
    exact ⟨e, by simp [Proc.runActs, he]⟩

/-- Where the driver accepts everything and every leaf call on such a backend returns nil or
`E` and leaves the driver accepting, every call of a run returns nil or `E`. -/
theorem runActs_results (hleaf : ∀ k w, w.Accepting →
      ((leaf k w).1 = none ∨ (leaf k w).1 = some E) ∧ (leaf k w).2.Accepting) :
    ∀ (π : List TxKind) (w : World), w.Accepting →
      ∀ x ∈ (Proc.runActs (π.map leaf) w).1, x = none ∨ x = some E
  | [], _, _ => by simp [Proc.runActs]
  | k :: π, w, hw => by
    simp only [List.map_cons, Proc.runActs, List.mem_cons, forall_eq_or_imp]
    exact ⟨(hleaf k w hw).1, runActs_results hleaf π _ (hleaf k w hw).2⟩

end TwoLeaves

namespace Transactor

/-- A run of a tree with two SQL leaves whose SQL call finishes the transaction `h` and fails
with `E` once it is finished, and whose Redis call leaves it as it is, fails; where the driver
accepts everything, with `E`. -/
theorem runs_two_sql_fail {leaf : TxKind → Context → Act} {t : Transactor} {ctx : Context}
    {h : Nat} {E : Err} (hsql2 : 2 ≤ t.kinds.count .sql)
    (hsql : ∀ w, w.IsActive h → ¬ (leaf .sql ctx w).2.IsActive h)
    (hfail : ∀ w, ¬ w.IsActive h → leaf .sql ctx w = (some E, w))
    (hredis : ∀ w, (leaf .redis ctx w).2.IsActive h ↔ w.IsActive h)
    (hacc : ∀ k w, w.Accepting →
      ((leaf k ctx w).1 = none ∨ (leaf k ctx w).1 = some E) ∧ (leaf k ctx w).2.Accepting)
    {w w' : World} {l : List Proc.Label} {r : Option Err}
    (hr : (t.finishProc leaf ctx).Runs w l (.done r) w') : r ≠ none ∧ (w.Accepting → r = some E) := by
  obtain ⟨hperm, hw, hnone, hsome⟩ := hr.complete (accounts_finishProc _ t ctx)
  rw [todo_finishProc] at hperm
  obtain ⟨π, hπ, hσ⟩ := exists_perm_of_perm_map _ hperm
  have hres : l.map Prod.snd = (Proc.runActs (π.map (leaf · ctx)) w).1 := by rw [← hσ, hw]
  obtain ⟨e, he⟩ := @exists_error_runActs (leaf · ctx) h E hsql hfail hredis π w
    (.inl (hπ.count_eq TxKind.sql ▸ hsql2))
  have hne : r ≠ none := fun h0 => Option.some_ne_none e (hnone.1 h0 _ (hres ▸ he))
  refine ⟨hne, fun hw₀ => ?_⟩
  obtain ⟨e', rfl⟩ := Option.ne_none_iff_exists'.1 hne
  have hmem := hres ▸ hsome e' rfl
  exact (@runActs_results (leaf · ctx) E hacc π w hw₀ _ hmem).resolve_left (Option.some_ne_none e')

/-- A transactor tree with two SQL leaves: whenever its `BeginCtx(ctx)` returns `ctx'`, the
context carries one SQL transaction, which every SQL leaf finishes, so on every backend,
whatever happened in between and whatever the driver answers, every interleaving of
`CommitCtx(ctx')` or `RollbackCtx(ctx')` that returns fails; where the driver accepts
everything, with `ErrTransactorCommit` or `ErrTransactorRollback` wrapping `sql.ErrTxDone`. -/
theorem finishCtx_two_sql_leaves_fail (t : Transactor) (ctx ctx' : Context) (w₀ w₁ w : World)
    (hsql : 2 ≤ t.kinds.count .sql) (hb : t.beginCtx ctx w₀ = (.ok ctx', w₁)) :
    (∀ l r w', (t.commitCtx ctx').proc.Runs w l (.done r) w' →
      r ≠ none ∧ (w.Accepting → r = some (errTransactorCommit .txDone))) ∧
    (∀ l r w', (t.rollbackCtx ctx').proc.Runs w l (.done r) w' →
      r ≠ none ∧ (w.Accepting → r = some (errTransactorRollback .txDone))) := by
  obtain ⟨tx, hg⟩ : ∃ tx, Sql.getTx ctx' = some tx := by
    obtain ⟨rfl, -⟩ := beginCtx_ok hb
    exact Option.isSome_iff_exists.1 (getTx_setTxAll_isSome ctx
      (by rw [map_fst_opened]; exact List.count_pos_iff.1 (by omega)))
  refine ⟨fun l r w' h => ?_, fun l r w' h => ?_⟩
  · rw [commitCtx_proc] at h
    refine @runs_two_sql_fail _ _ _ tx _ hsql (fun w ha => ?_) (fun w ha => ?_)
      (Redis.commitCtx_isActive ctx' · tx) (fun k w hw => ?_) _ _ _ _ h
    · simpa [TxKind.commitCtx, Sql.commitCtx_of_getTx hg] using World.not_isActive_commit ha
    · simp [TxKind.commitCtx, Sql.commitCtx_of_getTx hg, World.commit_of_not_active ha]
    · cases k with
      | sql =>
        obtain ⟨hc | hc, hacc⟩ := hw.commit tx <;>
          simp [TxKind.commitCtx, Sql.commitCtx_of_getTx hg, hc, hacc]
      | redis => exact .imp_left .inl (Redis.finishCtx_accepting hw ctx').1
  · rw [rollbackCtx_proc] at h
    refine @runs_two_sql_fail _ _ _ tx _ hsql (fun w ha => ?_) (fun w ha => ?_)
      (Redis.rollbackCtx_isActive ctx' · tx) (fun k w hw => ?_) _ _ _ _ h
    · simpa [TxKind.rollbackCtx, Sql.rollbackCtx_of_getTx hg] using World.not_isActive_rollback ha
    · simp [TxKind.rollbackCtx, Sql.rollbackCtx_of_getTx hg, World.rollback_of_not_active ha]
    · cases k with
      | sql =>
        obtain ⟨hc | hc, hacc⟩ := hw.rollback tx <;>
          simp [TxKind.rollbackCtx, Sql.rollbackCtx_of_getTx hg, hc, hacc]
      | redis => exact .imp_left .inl (Redis.finishCtx_accepting hw ctx').2

theorem finishCtx_two_sql_leaves_fail_background :
    2 ≤ (composite [.sql (.db 0), .sql (.db 0)]).kinds.count .sql ∧
      (composite [.sql (.db 0), .sql (.db 0)]).beginCtx .background ⟨[], [], []⟩ =
        (.ok (Sql.setTx (Sql.setTx .background 0) 1),
          ⟨[⟨.sqlTx, 0, [], .active⟩, ⟨.sqlTx, 0, [], .active⟩], [], []⟩) ∧
      (∀ l r w', ((composite [.sql (.db 0), .sql (.db 0)]).commitCtx
          (Sql.setTx (Sql.setTx .background 0) 1)).proc.Runs
          ⟨[⟨.sqlTx, 0, [], .active⟩, ⟨.sqlTx, 0, [], .active⟩], [], [some (.driver 1)]⟩
          l (.done r) w' →
        r ≠ none ∧ (World.Accepting
          ⟨[⟨.sqlTx, 0, [], .active⟩, ⟨.sqlTx, 0, [], .active⟩], [], [some (.driver 1)]⟩ →
          r = some (errTransactorCommit .txDone))) ∧
      (∀ l r w', ((composite [.sql (.db 0), .sql (.db 0)]).rollbackCtx
          (Sql.setTx (Sql.setTx .background 0) 1)).proc.Runs
          ⟨[⟨.sqlTx, 0, [], .active⟩, ⟨.sqlTx, 0, [], .active⟩], [], [some (.driver 1)]⟩
          l (.done r) w' →
        r ≠ none ∧ (World.Accepting
          ⟨[⟨.sqlTx, 0, [], .active⟩, ⟨.sqlTx, 0, [], .active⟩], [], [some (.driver 1)]⟩ →
          r = some (errTransactorRollback .txDone))) :=
  ⟨by decide, rfl, finishCtx_two_sql_leaves_fail _ .background _ ⟨[], [], []⟩ _ _ (by decide) rfl⟩

/-! ## Composite `BeginCtx`, then `CommitCtx` and `RollbackCtx` -/

private theorem filterMap_found_eq_zip (ctx : Context) : ∀ {ks : List TxKind} {ns : List Nat},
    ks.length = ns.length → (∀ p ∈ ks.zip ns, p.1.getTx ctx = some p.2) →
      ks.filterMap (·.found ctx) = ks.zip ns
  | [], [], _, _ => rfl
  | k :: ks, n :: ns, hl, h => by
    have hk : k.found ctx = some (k, n) := by simp [TxKind.found, h (k, n) (by simp)]
    simp only [List.filterMap_cons, hk, List.zip_cons_cons,
      filterMap_found_eq_zip ctx (by simpa using hl) fun p hp => h p (List.mem_cons_of_mem _ hp)]

end Transactor

end Storage
