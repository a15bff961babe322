import Storage.Context

/-!
# Query arguments and their placeholders

`sql.Arguments` collects the values of a query and hands out the PostgreSQL placeholders
`$1, $2, …` that refer to them.  `NewArguments(xs...)` starts with `xs` and a counter equal to
their number; `Add(x)` appends `x` and increments the counter; `Number()` prints the counter;
`AddMany(y₁ … yₖ)` calls `Add(yᵢ).Number()` for each value and joins the results into
`"($n+1, …, $n+k)"`.

Over every initial list and every sequence of `Add` and `AddMany` calls the counter stays the
number of arguments (`Counted.run`), so each placeholder names the 1-based position of the
value it was made for (`arguments_placeholders`).  The counter is a Go `int`; it equals the
length of a slice held in memory, so it never reaches the bound of `int`, and it is a `Nat`
here.
-/

namespace Storage
namespace Sql

/-- `Arguments`: the values collected and the counter of placeholders handed out. -/
structure Arguments where
  args : List Value
  counter : Nat
  deriving DecidableEq, Repr

/-- `NewArguments(args...)`. -/
def newArguments (args : List Value) : Arguments := ⟨args, args.length⟩

namespace Arguments

/-- `a.Add(arg)`. -/
def add (a : Arguments) (arg : Value) : Arguments := ⟨a.args ++ [arg], a.counter + 1⟩

/-- `a.Number()`: `fmt.Sprintf("$%d", a.counter)`. -/
def number (a : Arguments) : String := "$" ++ toString a.counter

/-- The loop of `AddMany` from the argument at index `idx` on, `len` being the number of
arguments: `values += a.Add(arg).Number()`, then `", "` unless `arg` is the last one. -/
def addManyLoop (len : Nat) : Nat → List Value → String → Arguments → String × Arguments
  | _, [], values, a => (values, a)
  | idx, arg :: rest, values, a =>
    addManyLoop len (idx + 1) rest
      (values ++ (a.add arg).number ++ if idx < len - 1 then ", " else "") (a.add arg)

/-- `a.AddMany(args...)`: the string it returns, and the receiver afterwards. -/
def addMany (a : Arguments) (args : List Value) : String × Arguments :=
  if args.length = 0 then ("", a)
  else
    let r := addManyLoop args.length 0 args "(" a
    (r.1 ++ ")", r.2)

/-- A call on an `*Arguments` that changes it. -/
inductive Method where
  | add (arg : Value)
  | addMany (args : List Value)
  deriving DecidableEq, Repr

/-- The receiver after the call. -/
def Method.apply : Method → Arguments → Arguments
  | .add arg, a => a.add arg
  | .addMany args, a => (a.addMany args).2

/-- The receiver after a sequence of calls, oldest first. -/
def run (ms : List Method) (a : Arguments) : Arguments :=
  ms.foldl (fun a m => m.apply a) a

@[simp] theorem add_args (a : Arguments) (arg : Value) : (a.add arg).args = a.args ++ [arg] :=
  rfl

@[simp] theorem add_counter (a : Arguments) (arg : Value) :
    (a.add arg).counter = a.counter + 1 := rfl

/-! ## What the loop of `AddMany` builds -/

/-- The placeholders `$m+1, …, $m+j`. -/
def marks (m j : Nat) : List String := (List.range j).map fun i => "$" ++ toString (m + i + 1)

theorem marks_succ (m j : Nat) :
    marks m (j + 1) = ("$" ++ toString (m + 1)) :: marks (m + 1) j := by
  simp only [marks, List.range_succ_eq_map, List.map_cons, List.map_map]
  congr 2
  funext i
  simp only [Function.comp_apply, Nat.succ_eq_add_one]
  congr 2
  omega

theorem intercalate_go_append (acc t s : String) (l : List String) :
    String.intercalate.go (acc ++ t) s l = acc ++ String.intercalate.go t s l := by
  induction l generalizing t with
  | nil => rfl
  | cons b l ih =>
    simp only [String.intercalate.go, String.append_assoc]
    exact ih _

/-- From index `idx` on, with `x` and `rest` the arguments left, the loop appends `x` and the
rest and adds their placeholders, separated by `", "`. -/
theorem addManyLoop_eq {len : Nat} (x : Value) (rest : List Value) :
    ∀ {idx : Nat} (values : String) (a : Arguments), idx + rest.length + 1 = len →
      addManyLoop len idx (x :: rest) values a =
        (values ++ String.intercalate.go ("$" ++ toString (a.counter + 1)) ", "
          (marks (a.counter + 1) rest.length),
         ⟨a.args ++ x :: rest, a.counter + rest.length + 1⟩) := by
  induction rest generalizing x with
  | nil =>
    intro idx values a hlen
    have hlast : ¬ idx < len - 1 := by simp at hlen; omega
    simp [addManyLoop, hlast, number, marks, String.intercalate.go, add]
  | cons y rest ih =>
    intro idx values a hlen
    have hmore : idx < len - 1 := by simp at hlen; omega
    rw [addManyLoop, if_pos hmore, ih y _ _ (by simp at hlen ⊢; omega)]
    simp only [add_counter, add_args, List.length_cons, marks_succ, String.intercalate.go,
      number, String.append_assoc, intercalate_go_append, List.append_assoc,
      List.singleton_append, Prod.mk.injEq, Arguments.mk.injEq, true_and]
    omega

/-- `($n+1, $n+2, …, $n+k)` for `k > 0` values after `n`, and `""` for `k = 0`. -/
def placeholders (n k : Nat) : String :=
  if k = 0 then ""
  else "(" ++ ", ".intercalate ((List.range k).map fun i => "$" ++ toString (n + i + 1)) ++ ")"

theorem placeholders_succ (n j : Nat) :
    placeholders n (j + 1) =
      "(" ++ String.intercalate.go ("$" ++ toString (n + 1)) ", " (marks (n + 1) j) ++ ")" := by
  rw [placeholders, if_neg (Nat.add_one_ne_zero j)]
  change "(" ++ ", ".intercalate (marks n (j + 1)) ++ ")" = _
  rw [marks_succ]
  rfl

/-- `AddMany` appends its arguments and returns their placeholders, numbered on from the
counter. -/
theorem addMany_eq (a : Arguments) (ys : List Value) :
    a.addMany ys = (placeholders a.counter ys.length, ⟨a.args ++ ys, a.counter + ys.length⟩) := by
  cases ys with
  | nil => simp [addMany, placeholders]
  | cons y rest =>
    rw [addMany, if_neg (by simp), addManyLoop_eq y rest "(" a (by simp), List.length_cons,
      placeholders_succ]
    simp only [Prod.mk.injEq, Arguments.mk.injEq, true_and]
    omega

/-! ## The counter over whole runs -/

/-- The counter is the number of arguments. -/
def Counted (a : Arguments) : Prop := a.counter = a.args.length

theorem counted_newArguments (xs : List Value) : (newArguments xs).Counted := rfl

theorem Counted.add {a : Arguments} (h : a.Counted) (arg : Value) : (a.add arg).Counted := by
  simp only [Counted, add_args, add_counter, List.length_append, List.length_singleton]
  rw [show a.counter = a.args.length from h]

theorem Counted.apply {a : Arguments} (h : a.Counted) (m : Method) : (m.apply a).Counted := by
  cases m with
  | add arg => exact h.add arg
  | addMany ys =>
    simp only [Method.apply, addMany_eq, Counted, List.length_append]
    rw [show a.counter = a.args.length from h]

theorem Counted.run {a : Arguments} (h : a.Counted) (ms : List Method) : (run ms a).Counted := by
  induction ms generalizing a with
  | nil => exact h
  | cons m ms ih => exact ih (h.apply m)

end Arguments

open Arguments in
/-- For every initial list `xs` and every sequence of `Add` and `AddMany` calls on
`NewArguments(xs...)`, the receiver `a` the calls leave has a counter equal to `len(Args())`;
`a.Add(x).Number()` is `"$m"` for `m = len(Args())` after the call, with `Args()[m-1] = x`;
and `a.AddMany(y₁ … yₖ)` appends `y₁ … yₖ` to `Args()` and returns
`"($n+1, …, $n+k)"` for `n = len(Args())` before the call, or `""` when `k = 0`. -/
theorem arguments_placeholders (xs : List Value) (ms : List Method) :
    (run ms (newArguments xs)).counter = (run ms (newArguments xs)).args.length ∧
      (∀ x, ((run ms (newArguments xs)).add x).number =
          "$" ++ toString ((run ms (newArguments xs)).add x).args.length ∧
        ((run ms (newArguments xs)).add x).args[((run ms (newArguments xs)).add x).args.length - 1]?
          = some x) ∧
      ∀ ys, ((run ms (newArguments xs)).addMany ys).2.args = (run ms (newArguments xs)).args ++ ys ∧
        ((run ms (newArguments xs)).addMany ys).1 =
          placeholders (run ms (newArguments xs)).args.length ys.length := by
  have h := (counted_newArguments xs).run ms
  refine ⟨h, fun x => ⟨?_, ?_⟩, fun ys => ?_⟩
  · simp [number, show (run ms (newArguments xs)).counter = _ from h]
  · simp
  · simp [addMany_eq, show (run ms (newArguments xs)).counter = _ from h]

example : (newArguments [.int 7]).addMany [.str "a", .str "b", .str "c"] =
    ("($2, $3, $4)", ⟨[.int 7, .str "a", .str "b", .str "c"], 4⟩) := by decide

end Sql
end Storage
