import Storage.Finishing
import Mathlib.Data.List.Forall2

/-!
# The backend runs refine the errgroup model

A composite's `CommitCtx`, `RollbackCtx`, `Commit` and `Rollback` hold their fan-out as an
`ErrGroup.Group` of invocations (`Finish.fanOut`), and `EachShardAsync` as one of shards.  The
`ErrGroup` module runs such a group with the environment choosing what each call returns; on
the backend each item runs as a goroutine tree of its own: an invocation's finishing tree, or
the call `fn(Client(shard.Conn()))`.  Every interleaving of the second is one of the first
(`Follows.runs`): a goroutine that has not been started is the item's tree as launched, one
that runs is a tree that has not returned, and one that returned is the tree that returned the
same result.  A move inside a running tree that does not return is a stutter of the abstract
group.

So whatever the errgroup model says of every interleaving and every result of every call
holds of the backend runs too: each item is started exactly once, all have returned when
`Wait` does, `Wait` returns the first error recorded, and the limit bounds the goroutines
holding a slot.
-/

namespace Storage

theorem Transactor.finishProc_ne_done (leaf : TxKind → Context → Act) (t : Transactor)
    (ctx : Context) (r : Option Err) : t.finishProc leaf ctx ≠ .done r := by
  cases t <;> simp [finishProc]

theorem Transaction.finishProc_ne_done (leaf : TxKind → Nat → Act) (tx : Transaction)
    (r : Option Err) : tx.finishProc leaf ≠ .done r := by
  cases tx <;> simp [finishProc]

/-- The goroutine of an invocation has not returned before it runs. -/
theorem Invocation.proc_ne_done (x : Invocation) (r : Option Err) : x.proc ≠ .done r := by
  cases x with
  | commitCtx t ctx | rollbackCtx t ctx => exact t.finishProc_ne_done _ ctx r
  | commit tx _ | rollback tx _ => exact tx.finishProc_ne_done _ r

/-- Splitting a pointwise relation at a position of its right-hand list. -/
theorem List.forall₂_append_cons {α β : Type} {R : α → β → Prop} :
    ∀ {la : List α} {pre post : List β} {b : β}, List.Forall₂ R la (pre ++ b :: post) →
      ∃ apre a apost, la = apre ++ a :: apost ∧ List.Forall₂ R apre pre ∧ R a b ∧
        List.Forall₂ R apost post
  | _, [], _, _, .cons hab hrest => ⟨[], _, _, rfl, .nil, hab, hrest⟩
  | _, _ :: _, _, _, .cons hac hrest => by
    obtain ⟨apre, a, apost, rfl, h₁, h₂, h₃⟩ := forall₂_append_cons hrest
    exact ⟨_ :: apre, a, apost, rfl, .cons hac h₁, h₂, h₃⟩

namespace Simulation

section Follows

variable {α : Type} (toProc : α → Proc)

/-- An abstract goroutine of the errgroup and the concrete tree that runs it: not started,
the item's tree as launched; calling, a tree that has not returned; returned, the tree that
returned the same result. -/
def Tracks : α × ErrGroup.Phase → Proc → Prop
  | (x, .ready), q => q = toProc x
  | (_, .calling), q => ∀ r, q ≠ .done r
  | (_, .returned r), q => q = .done r

/-- The abstract group `g` and the concrete goroutine `p` agree, each item running as the tree
`toProc` gives it: the same limit, items not launched and recorded error, and the live
goroutines tracked one for one; once `p` has returned, `g` is waiting with the error `p`
returned. -/
def Follows (g : ErrGroup.Group α) : Proc → Prop
  | .group limit pending live err => limit = g.limit ∧ pending = g.pending.map toProc ∧
      List.Forall₂ (Tracks toProc) g.live live ∧ err = g.err
  | .done r => g.Waiting ∧ g.err = r
  | .call _ => False

/-- Before its loop starts, the fan-out on the backend is the errgroup at its start. -/
theorem follows_start (items : List α) (limit : Option ℕ+) :
    Follows toProc (ErrGroup.start items limit) (.group limit (items.map toProc) [] none) :=
  ⟨rfl, rfl, .nil, rfl⟩

variable {toProc}

/-- A calling goroutine follows its tree's move to `q'`: it returns if `q'` has returned,
and otherwise stays as it is. -/
theorem follow (g : ErrGroup.Group α) {apre apost : List (α × ErrGroup.Phase)} {x : α}
    {pre post : List Proc} (q' : Proc) (hg : g.live = apre ++ (x, .calling) :: apost)
    (h₁ : List.Forall₂ (Tracks toProc) apre pre) (h₃ : List.Forall₂ (Tracks toProc) apost post) :
    ∃ g', Relation.ReflTransGen ErrGroup.Step g g' ∧
      Follows toProc g' (.group g.limit (g.pending.map toProc) (pre ++ q' :: post) g.err) := by
  by_cases hd : ∃ r, q' = .done r
  · obtain ⟨r, rfl⟩ := hd
    exact ⟨_, .single (.ret apre apost x r hg), rfl, rfl,
      List.rel_append h₁ (.cons (show Tracks toProc (x, .returned r) (.done r) from rfl) h₃), rfl⟩
  · exact ⟨g, .refl, rfl, rfl, hg ▸ List.rel_append h₁ (.cons (fun r h => hd ⟨r, h⟩) h₃), rfl⟩

variable (hne : ∀ x r, toProc x ≠ .done r)
include hne

/-- Every move of the concrete fan-out is matched by zero, one or two moves of the abstract
group: a launch by a launch, a move of a tree just started by its call (and its return if it
returned at once), a later move by nothing or the return, a `done` by a `done`. -/
theorem Follows.step {g : ErrGroup.Group α} {p p' : Proc} {w w' : World}
    {l : List Proc.Label} (h : Follows toProc g p) (hs : Proc.Step p w l p' w') :
    ∃ g', Relation.ReflTransGen ErrGroup.Step g g' ∧ Follows toProc g' p' := by
  cases hs with
  | call => exact h.elim
  | launch hfree =>
    obtain ⟨rfl, hpend, hlive, rfl⟩ := h
    obtain ⟨x, rest, hg, hq, rfl⟩ := List.map_eq_cons_iff.1 hpend.symm
    exact ⟨_, .single (.launch hg fun n hn => hlive.length_eq ▸ hfree n hn), rfl, rfl,
      List.rel_append hlive (.cons hq.symm .nil), rfl⟩
  | inner hq =>
    obtain ⟨rfl, rfl, hlive, rfl⟩ := h
    obtain ⟨apre, ⟨x, ph⟩, apost, hg, h₁, h₂, h₃⟩ := List.forall₂_append_cons hlive
    cases ph with
    | ready =>
      obtain ⟨g', hr, ha⟩ := follow
        { g with live := apre ++ (x, .calling) :: apost, calls := g.calls ++ [x] } _ rfl h₁ h₃
      exact ⟨g', .head (.call apre apost x hg) hr, ha⟩
    | calling => exact follow g _ hg h₁ h₃
    | returned r =>
      cases (h₂ : _ = Proc.done r)
      cases hq
  | done =>
    obtain ⟨rfl, rfl, hlive, rfl⟩ := h
    obtain ⟨apre, ⟨x, ph⟩, apost, hg, h₁, h₂, h₃⟩ := List.forall₂_append_cons hlive
    cases ph with
    | ready => exact absurd h₂.symm (hne x _)
    | calling => exact absurd rfl (h₂ _)
    | returned r =>
      cases (h₂ : _ = Proc.done r)
      exact ⟨_, .single (.done apre apost x _ hg), rfl, rfl, List.rel_append h₁ h₃, rfl⟩
  | wait =>
    obtain ⟨rfl, hpend, hlive, rfl⟩ := h
    exact ⟨g, .refl, ⟨List.map_eq_nil_iff.1 hpend.symm, List.forall₂_nil_right_iff.1 hlive⟩, rfl⟩

/-- Along a whole concrete run, the abstract group follows. -/
theorem Follows.runs {g : ErrGroup.Group α} {p p' : Proc} {w w' : World}
    {l : List Proc.Label} (h : Follows toProc g p) (hr : Proc.Runs p w l p' w') :
    ∃ g', Relation.ReflTransGen ErrGroup.Step g g' ∧ Follows toProc g' p' := by
  induction hr with
  | refl => exact ⟨g, .refl, h⟩
  | tail _ hs ih =>
    obtain ⟨g₁, hr₁, h₁⟩ := ih
    obtain ⟨g₂, hr₂, h₂⟩ := h₁.step hne hs
    exact ⟨g₂, hr₁.trans hr₂, h₂⟩

/-- A run of the fan-out on the backend to its return is a run of the errgroup model to `Wait`
returning the same result, so the barrier holds of it. -/
theorem runs_returned {items : List α} {limit : Option ℕ+} {w w' : World} {l : List Proc.Label}
    {r : Option Err} (h : (Proc.group limit (items.map toProc) [] none).Runs w l (.done r) w') :
    ∃ g, ErrGroup.Reach items limit g ∧ g.Waiting ∧ g.Returned items r := by
  obtain ⟨g, hg, hw, rfl⟩ := (follows_start toProc items limit).runs hne h
  exact ⟨g, hg, hw, (ErrGroup.Reach.inv hg).waiting hw⟩

/-- At every point of every run of the fan-out on the backend, no more goroutines hold a slot
than the limit allows. -/
theorem runs_within_limit {items : List α} {limit : Option ℕ+} {w w' : World}
    {l : List Proc.Label} {p : Proc} (h : (Proc.group limit (items.map toProc) [] none).Runs w l p w')
    {lim : Option ℕ+} {pending live : List Proc} {err : Option Err}
    (hp : p = .group lim pending live err) (n : ℕ+) (hn : limit = some n) : live.length ≤ n := by
  obtain ⟨g, hg, hf⟩ := (follows_start toProc items limit).runs hne h
  subst hp
  obtain ⟨-, -, hlive, -⟩ := hf
  have hinv := ErrGroup.Reach.inv hg
  exact hlive.length_eq ▸ hinv.bound n (hinv.limit_eq.trans hn)

end Follows

/-- The abstract group `g` of a composite's fan-out and the concrete goroutine `p` agree. -/
def Abstracts (g : ErrGroup.Group Invocation) (p : Proc) : Prop :=
  Follows Invocation.proc g p

theorem abstracts_start (items : List Invocation) (limit : Option ℕ+) :
    Abstracts (ErrGroup.start items limit) (Finish.fanOut (ErrGroup.start items limit)).proc :=
  follows_start _ items limit

/-- A composite's fan-out, from before its loop starts, with any items and any limit: at
every point of every interleaving on the backend, the errgroup model has an interleaving that
agrees with it: the same items not launched, the same recorded error, each live goroutine's
tree not started, running or returned with the same result as the abstract goroutine says;
and once the fan-out has returned `r`, the errgroup is waiting with `r` recorded.  So the
errgroup's barrier holds of the backend runs. -/
theorem fanOut_refines_errGroup (items : List Invocation) (limit : Option ℕ+) (w : World) :
    ∀ l p' w', (Finish.fanOut (ErrGroup.start items limit)).proc.Runs w l p' w' →
      ∃ g, ErrGroup.Reach items limit g ∧ Abstracts g p' :=
  fun _ _ _ hr => (abstracts_start items limit).runs Invocation.proc_ne_done hr

theorem fanOut_refines_errGroup_sql_redis :
    ∃ l r w', (Finish.fanOut (ErrGroup.start
        [.commitCtx (.sql (.db 0)) (Redis.setTx (Sql.setTx .background 0) 1),
          .commitCtx (.redis (.single ⟨1⟩)) (Redis.setTx (Sql.setTx .background 0) 1)]
        none)).proc.Runs ⟨[⟨.sqlTx, 0, [], .active⟩, ⟨.txPipeline, 1, [], .active⟩], [], []⟩
        l (.done r) w' ∧
      ∃ g, ErrGroup.Reach
        [.commitCtx (.sql (.db 0)) (Redis.setTx (Sql.setTx .background 0) 1),
          .commitCtx (.redis (.single ⟨1⟩)) (Redis.setTx (Sql.setTx .background 0) 1)]
        none g ∧ Abstracts g (.done r) :=
  let ⟨l, r, w', h⟩ := Proc.exists_runs_done _ _
  ⟨l, r, w', h, fanOut_refines_errGroup _ none _ l _ w' h⟩

/-! ## The barrier of every fan-out of the repository -/

/-- The barrier on the backend for the fan-out `g₀` of `items`: every run to its return is a
run of the errgroup model from `g₀` to `Wait` returning the same result. -/
def BackendBarrier (items : List Invocation) (g₀ : ErrGroup.Group Invocation) : Prop :=
  ∀ w l r w', (Finish.fanOut g₀).proc.Runs w l (.done r) w' →
    ∃ g, Relation.ReflTransGen ErrGroup.Step g₀ g ∧ g.Waiting ∧ g.Returned items r

theorem backendBarrier_start (items : List Invocation) :
    BackendBarrier items (ErrGroup.start items none) :=
  fun _ _ _ _ h => runs_returned Invocation.proc_ne_done h

end Simulation

/-! ## `EachShardAsync` on the backend -/

namespace Sql

/-- `EachShardAsync(shardDB, fn, limit...)` run on the backend: the errgroup `eachShardAsync`
builds, each shard's goroutine making the call `fn(Client(shard.Conn()))`. -/
def eachShardAsyncProc (c : ClientShard) (fn : DB → Act) (limit : List Int) : Proc :=
  .group (asyncLimit limit) (c.connections.connections.map fun s => .call (fn (client s.conn)))
    [] none

theorem todoAll_calls (fn : DB → Act) : ∀ shards : List ShardConnect,
    Proc.todo.todoAll (shards.map fun s => .call (fn (client s.conn))) =
      shards.map fun s => fn (client s.conn)
  | [] => rfl
  | s :: shards => by simp [Proc.todo.todoAll, Proc.todo, todoAll_calls fn shards]

/-- `EachShardAsync(shardDB, fn, limit...)` over a shard client, with `fn` making one call on
the backend: at every point of every interleaving, a positive `limit[0]` bounds the goroutines
holding a slot; some interleaving returns; and every one that returns has called `fn` on the
client of each shard exactly once, in the order it chose, the backend being what those calls
leave made one after the other in that order, and returned nil exactly when every call returned
nil, and otherwise the error one call returned. -/
theorem eachShardAsync_on_backend (c : ClientShard) (fn : DB → Act) (limit : List Int)
    (w : World) :
    (∀ l p w', (eachShardAsyncProc c fn limit).Runs w l p w' →
      ∀ lim pending live err, p = .group lim pending live err →
        ∀ n, limit.head? = some n → 0 < n → live.length ≤ n.toNat) ∧
    (∃ l r w', (eachShardAsyncProc c fn limit).Runs w l (.done r) w') ∧
    ∀ l r w', (eachShardAsyncProc c fn limit).Runs w l (.done r) w' →
      (l.map Prod.fst).Perm (c.connections.connections.map fun s => fn (client s.conn)) ∧
      Proc.runActs (l.map Prod.fst) w = (l.map Prod.snd, w') ∧
      (r = none ↔ ∀ x ∈ l.map Prod.snd, x = none) ∧ ∀ e, r = some e → some e ∈ l.map Prod.snd := by
  have hne : ∀ (s : ShardConnect) r, Proc.call (fn (client s.conn)) ≠ .done r := fun _ _ => nofun
  refine ⟨fun l p w' h lim pending live err hp n hn hpos => ?_, Proc.exists_runs_done _ w,
    fun l r w' h => ?_⟩
  · have hlim : asyncLimit limit = some ⟨n.toNat, by omega⟩ := by
      obtain ⟨rest, rfl⟩ : ∃ rest, limit = n :: rest := by
        cases limit with
        | nil => cases hn
        | cons m rest => cases hn; exact ⟨rest, rfl⟩
      simp [asyncLimit, hpos]
    exact Simulation.runs_within_limit hne h hp _ hlim
  · have hacc : (eachShardAsyncProc c fn limit).Accounts 0 :=
      (Proc.Accounts.group (fun q hq => by
        obtain ⟨s, -, rfl⟩ := List.mem_map.1 hq
        exact .call _) Proc.summary_zero .nil).congr (add_zero 0)
    have hc := h.complete hacc
    rwa [eachShardAsyncProc, Proc.todo, Proc.todo.todoAll, List.nil_append, todoAll_calls] at hc

end Sql

end Storage
