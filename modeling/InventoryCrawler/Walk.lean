import InventoryCrawler.Pool
import Mathlib.Data.List.Nodup

/-!
# The walk of a crawl

`walk` lists the resources of a served tree in the order a crawl reaches them when nothing raises
and every callback runs at once: a resource is entered (`false`), and if it passes the exclusion
check it is visited (`true`) and the items of its iterators, zipped with its `contains` list, are
walked in order, each one step down with the stack grown by the resource.

`trace` is what a thread enters and visits, its dispatched callbacks run in place. The main result
is `trace_accept_sublist`: whatever raises and however callbacks are dispatched, the trace of
`accept` is a sublist of the walk. It is proved per helper of `Accept.lean` and then by mutual
induction over the tree, one case per function of the recursion.

A crawl in which no exception is raised (`Quiet`: the names of every resource it enters compute,
and no visit, iterator, dispatch or flush of warnings raises) enters and visits the whole walk
(`accept_returns_walk`), proved helper by helper through `Returns x A v`, which says that `x`
returns `v` after entering and visiting `A`. Every finished schedule of such a crawl has then
entered and visited all of the walk (`enter_mem_log_of_walk`, `visit_mem_log_of_walk`).
-/

namespace InventoryCrawler

open scoped List
open Crawl

variable {R : Type}

/-- A resource of a crawl: where it sits, and the stack its `accept` receives. -/
structure Node (R : Type) where
  path : Path
  res : R
  stack : List R

/-- The resource an action enters (`false`) or visits (`true`). -/
def Act.node? : Act R → Option (Node R × Bool)
  | .enter p r stack => some (⟨p, r, stack⟩, false)
  | .visit p r stack => some (⟨p, r, stack⟩, true)
  | _ => none

/-- The resources a thread enters and visits, its dispatched callbacks run in place. -/
def trace (acts : List (Act R)) : List (Node R × Bool) := (expand acts).filterMap Act.node?

/-- No actions trace nothing. -/
@[simp] theorem trace_nil : trace ([] : List (Act R)) = [] := rfl

/-- The trace of two lists of actions, one after the other. -/
@[simp] theorem trace_append (as bs : List (Act R)) : trace (as ++ bs) = trace as ++ trace bs := by
  simp [trace]

/-- The trace of one more action. -/
@[simp] theorem trace_cons (a : Act R) (as : List (Act R)) :
    trace (a :: as) = (a.node?.toList ++ (a.spawned.map trace).flatten) ++ trace as := by
  cases a <;> simp [trace, expandOne, Act.node?, Act.spawned]

section Walk

variable (m : Methods R) (E : List String)

mutual
/-- The resources a crawl of `t` at `p`, on `stack`, enters and visits when nothing raises and
every callback runs at once. -/
def walk (p : Path) (stack : List R) : Served R → List (Node R × Bool)
  | .node r runs => (⟨p, r, stack⟩, false) ::
      if m.passes E r stack then (⟨p, r, stack⟩, true) :: walkRuns p r stack 0 (m.contains r) runs
      else []

/-- The walk of the iterators of `r` from the `i`-th, zipped with their classes. -/
def walkRuns (p : Path) (r : R) (stack : List R) :
    Nat → List String → List (IterRun R) → List (Node R × Bool)
  | _, [], _ => []
  | _, _ :: _, [] => []
  | i, _ :: cs, run :: runs => walkRun p r stack i run ++ walkRuns p r stack (i + 1) cs runs

/-- The walk of the items of the `i`-th iterator of `r`. -/
def walkRun (p : Path) (r : R) (stack : List R) (i : Nat) : IterRun R → List (Node R × Bool)
  | .mk items _ => walkItems p r stack i 0 items

/-- The walk of the items of the `i`-th iterator of `r`, from the `j`-th. -/
def walkItems (p : Path) (r : R) (stack : List R) (i : Nat) :
    Nat → List (Served R) → List (Node R × Bool)
  | _, [] => []
  | j, c :: cs => walk (p ++ [(i, j)]) (stack ++ [r]) c ++ walkItems p r stack i (j + 1) cs
end

/-- A walked resource's stack and the resource itself are the path down the tree to it, and its
path extends the path of the walk's top. -/
def Reached (p : Path) (stack : List R) (t : Served R) (x : Node R × Bool) : Prop :=
  ∃ q rs, x.1.path = p ++ q ∧ x.1.stack ++ [x.1.res] = stack ++ rs ∧ t.YieldPath q rs

mutual
/-- Every walked resource is reached along its path, with its stack. -/
theorem mem_walk (p : Path) (stack : List R) : ∀ (t : Served R) (x : Node R × Bool),
    x ∈ walk m E p stack t → Reached p stack t x
  | .node r runs, x, h => by
    have htop : x.1 = ⟨p, r, stack⟩ → Reached p stack (.node r runs) x := fun hx =>
      ⟨[], [r], by simp [hx], by simp [hx], .top r runs⟩
    simp only [walk, List.mem_cons] at h
    rcases h with rfl | h
    · exact htop rfl
    · split at h
      · rcases List.mem_cons.mp h with rfl | h
        · exact htop rfl
        · obtain ⟨k, j, run, c, q, rs, hk, hj, hy, hp, hs⟩ := mem_walkRuns p r stack 0 _ runs x h
          exact ⟨(k, j) :: q, r :: rs, by simpa using hp, by simpa using hs, .down hk hj hy⟩
      · simp at h

/-- Every resource walked under the iterators of `r`, from the `i`-th, is reached through one of
them. -/
theorem mem_walkRuns (p : Path) (r : R) (stack : List R) : ∀ (i : Nat) (cs : List String)
    (runs : List (IterRun R)) (x : Node R × Bool), x ∈ walkRuns m E p r stack i cs runs →
    ∃ k j run c q rs, runs[k]? = some run ∧ run.items[j]? = some c ∧ c.YieldPath q rs ∧
      x.1.path = p ++ (i + k, j) :: q ∧ x.1.stack ++ [x.1.res] = stack ++ r :: rs
  | _, [], _, x, h => by simp [walkRuns] at h
  | _, _ :: _, [], x, h => by simp [walkRuns] at h
  | i, _ :: cs, run :: runs, x, h => by
    rw [walkRuns, List.mem_append] at h
    rcases h with h | h
    · obtain ⟨j, c, q, rs, hj, hy, hp, hs⟩ := mem_walkRun p r stack i run x h
      exact ⟨0, j, run, c, q, rs, by simp, hj, hy, hp, hs⟩
    · obtain ⟨k, j, run', c, q, rs, hk, hj, hy, hp, hs⟩ :=
        mem_walkRuns p r stack (i + 1) cs runs x h
      exact ⟨k + 1, j, run', c, q, rs, by simpa using hk, hj, hy, by simpa [Nat.add_right_comm,
        Nat.add_assoc] using hp, hs⟩

/-- Every resource walked under the `i`-th iterator of `r` is reached through one of its items. -/
theorem mem_walkRun (p : Path) (r : R) (stack : List R) (i : Nat) : ∀ (run : IterRun R)
    (x : Node R × Bool), x ∈ walkRun m E p r stack i run →
    ∃ j c q rs, run.items[j]? = some c ∧ c.YieldPath q rs ∧ x.1.path = p ++ (i, j) :: q ∧
      x.1.stack ++ [x.1.res] = stack ++ r :: rs
  | .mk items raises, x, h => by
    obtain ⟨k, c, q, rs, hk, hy, hp, hs⟩ := mem_walkItems p r stack i 0 items x h
    exact ⟨k, c, q, rs, hk, hy, by simpa using hp, hs⟩

/-- Every resource walked under the items of an iterator, from the `j`-th, is reached through
one of them. -/
theorem mem_walkItems (p : Path) (r : R) (stack : List R) (i : Nat) : ∀ (j : Nat)
    (items : List (Served R)) (x : Node R × Bool), x ∈ walkItems m E p r stack i j items →
    ∃ k c q rs, items[k]? = some c ∧ c.YieldPath q rs ∧ x.1.path = p ++ (i, j + k) :: q ∧
      x.1.stack ++ [x.1.res] = stack ++ r :: rs
  | _, [], x, h => by simp [walkItems] at h
  | j, c :: cs, x, h => by
    rw [walkItems, List.mem_append] at h
    rcases h with h | h
    · obtain ⟨q, rs, hp, hs, hy⟩ := mem_walk (p ++ [(i, j)]) (stack ++ [r]) c x h
      exact ⟨0, c, q, rs, by simp, hy, by simpa using hp, by simpa using hs⟩
    · obtain ⟨k, c', q, rs, hk, hy, hp, hs⟩ := mem_walkItems p r stack i (j + 1) cs x h
      exact ⟨k + 1, c', q, rs, by simpa using hk, hy, by simpa [Nat.add_right_comm,
        Nat.add_assoc] using hp, hs⟩
end

/-- What tells the entries of a walk apart: the path, and whether the entry is the visit. -/
def entryKey (x : Node R × Bool) : Path × Bool := (x.1.path, x.2)

mutual
/-- A walk enters and visits each path at most once. -/
theorem walk_nodup (p : Path) (stack : List R) :
    ∀ t : Served R, ((walk m E p stack t).map entryKey).Nodup
  | .node r runs => by
    have hne : ∀ x ∈ walkRuns m E p r stack 0 (m.contains r) runs, x.1.path ≠ p := fun x hx => by
      obtain ⟨_, _, _, _, _, _, _, _, _, hp, _⟩ := mem_walkRuns m E p r stack 0 _ runs x hx
      simp [hp]
    simp only [walk]
    split
    · simp only [List.map_cons, List.nodup_cons, List.mem_cons, List.mem_map, entryKey]
      refine ⟨?_, ?_, walkRuns_nodup p r stack 0 (m.contains r) runs⟩
      · rintro (h | ⟨x, hx, h⟩)
        · simp at h
        · exact hne x hx (congrArg Prod.fst h)
      · rintro ⟨x, hx, h⟩
        exact hne x hx (congrArg Prod.fst h)
    · simp

/-- The walk under the iterators of `r` enters and visits each path at most once. -/
theorem walkRuns_nodup (p : Path) (r : R) (stack : List R) : ∀ (i : Nat) (cs : List String)
    (runs : List (IterRun R)), ((walkRuns m E p r stack i cs runs).map entryKey).Nodup
  | _, [], _ => by simp [walkRuns]
  | _, _ :: _, [] => by simp [walkRuns]
  | i, _ :: cs, run :: runs => by
    rw [walkRuns, List.map_append, List.nodup_append]
    refine ⟨walkRun_nodup p r stack i run, walkRuns_nodup p r stack (i + 1) cs runs, ?_⟩
    intro a ha hb
    obtain ⟨x, hx, rfl⟩ := List.mem_map.mp ha
    obtain ⟨y, hy, hxy⟩ := List.mem_map.mp hb
    obtain ⟨_, _, _, _, _, _, hpx, _⟩ := mem_walkRun m E p r stack i run x hx
    obtain ⟨_, _, _, _, _, _, _, _, _, hpy, _⟩ := mem_walkRuns m E p r stack (i + 1) cs runs y hy
    have := congrArg Prod.fst hxy
    simp only [entryKey, hpx, hpy, List.append_cancel_left_eq, List.cons.injEq, Prod.mk.injEq] at this
    omega

/-- The walk under one iterator enters and visits each path at most once. -/
theorem walkRun_nodup (p : Path) (r : R) (stack : List R) (i : Nat) :
    ∀ run : IterRun R, ((walkRun m E p r stack i run).map entryKey).Nodup
  | .mk items _ => walkItems_nodup p r stack i 0 items

/-- The walk under the items of one iterator enters and visits each path at most once. -/
theorem walkItems_nodup (p : Path) (r : R) (stack : List R) (i : Nat) : ∀ (j : Nat)
    (items : List (Served R)), ((walkItems m E p r stack i j items).map entryKey).Nodup
  | _, [] => by simp [walkItems]
  | j, c :: cs => by
    rw [walkItems, List.map_append, List.nodup_append]
    refine ⟨walk_nodup (p ++ [(i, j)]) (stack ++ [r]) c,
      walkItems_nodup p r stack i (j + 1) cs, ?_⟩
    intro a ha hb
    obtain ⟨x, hx, rfl⟩ := List.mem_map.mp ha
    obtain ⟨y, hy, hxy⟩ := List.mem_map.mp hb
    obtain ⟨_, _, hpx, _, _⟩ := mem_walk m E (p ++ [(i, j)]) (stack ++ [r]) c x hx
    obtain ⟨_, _, _, _, _, _, hpy, _⟩ := mem_walkItems m E p r stack i (j + 1) cs y hy
    have := congrArg Prod.fst hxy
    simp only [entryKey, hpx, hpy, List.append_assoc, List.singleton_append,
      List.append_cancel_left_eq, List.cons.injEq, Prod.mk.injEq] at this
    omega
end

/-- Every resource of a stack passed the exclusion check under the part of the stack below it. -/
def StackPasses (stack : List R) : Prop :=
  ∀ k (hk : k < stack.length), m.passes E stack[k] (stack.take k) = true

/-- A stack grown by a resource that passes under it still passes. -/
theorem StackPasses.append {stack : List R} {r : R} (hs : StackPasses m E stack)
    (hr : m.passes E r stack = true) : StackPasses m E (stack ++ [r]) := by
  intro k hk
  rw [List.length_append, List.length_singleton] at hk
  rcases Nat.lt_succ_iff_lt_or_eq.mp hk with hk | rfl
  · rw [List.getElem_append_left hk, List.take_append_of_le_length hk.le]
    exact hs k hk
  · simpa using hr

mutual
/-- On a stack that passes, every walked resource's stack passes, and a visited one passes too. -/
theorem walk_passes (p : Path) (stack : List R) (hs : StackPasses m E stack) :
    ∀ (t : Served R) (x : Node R × Bool), x ∈ walk m E p stack t →
      StackPasses m E x.1.stack ∧ (x.2 = true → m.passes E x.1.res x.1.stack = true)
  | .node r runs, x, h => by
    simp only [walk, List.mem_cons] at h
    rcases h with rfl | h
    · exact ⟨hs, by simp⟩
    · split at h
      · rename_i hr
        rcases List.mem_cons.mp h with rfl | h
        · exact ⟨hs, fun _ => hr⟩
        · exact walkRuns_passes p r stack (hs.append m E hr) 0 _ runs x h
      · simp at h

/-- The same for the walk under the iterators of a resource that passes. -/
theorem walkRuns_passes (p : Path) (r : R) (stack : List R) (hs : StackPasses m E (stack ++ [r])) :
    ∀ (i : Nat) (cs : List String) (runs : List (IterRun R)) (x : Node R × Bool),
      x ∈ walkRuns m E p r stack i cs runs →
      StackPasses m E x.1.stack ∧ (x.2 = true → m.passes E x.1.res x.1.stack = true)
  | _, [], _, x, h => by simp [walkRuns] at h
  | _, _ :: _, [], x, h => by simp [walkRuns] at h
  | i, _ :: cs, .mk items _ :: runs, x, h => by
    rw [walkRuns, List.mem_append] at h
    rcases h with h | h
    · exact walkItems_passes p r stack hs i 0 items x h
    · exact walkRuns_passes p r stack hs (i + 1) cs runs x h

/-- The same for the walk under the items of one iterator. -/
theorem walkItems_passes (p : Path) (r : R) (stack : List R) (hs : StackPasses m E (stack ++ [r]))
    (i : Nat) : ∀ (j : Nat) (items : List (Served R)) (x : Node R × Bool),
      x ∈ walkItems m E p r stack i j items →
      StackPasses m E x.1.stack ∧ (x.2 = true → m.passes E x.1.res x.1.stack = true)
  | _, [], x, h => by simp [walkItems] at h
  | j, c :: cs, x, h => by
    rw [walkItems, List.mem_append] at h
    rcases h with h | h
    · exact walk_passes (p ++ [(i, j)]) (stack ++ [r]) hs c x h
    · exact walkItems_passes p r stack hs i (j + 1) cs x h
end

end Walk

/-! ### The trace of each helper -/

section Helpers

variable {α β : Type}

/-- The trace of a bind is within the bounds of its two parts. -/
theorem trace_bind_sublist {x : Crawl R α} {f : α → Crawl R β} {A B : List (Node R × Bool)}
    (hx : trace x.acts <+ A) (hf : ∀ v, x.res = .ok v → trace (f v).acts <+ B) :
    trace (x >>= f).acts <+ A ++ B := by
  cases h : x.res with
  | error e => rw [bind_of_error h]; exact hx.trans (List.sublist_append_left _ _)
  | ok v => rw [bind_of_ok h, trace_append]; exact hx.append (hf v h)

/-- The trace of a handled computation is within the bounds of it and of its handler. -/
theorem trace_handle_sublist {x : Crawl R α} {k : Exn → Crawl R α} {A B : List (Node R × Bool)}
    (hx : trace x.acts <+ A) (hk : ∀ e, trace (k e).acts <+ B) :
    trace (handle x k).acts <+ A ++ B := by
  cases h : x.res with
  | ok v => rw [handle_of_ok h]; exact hx.trans (List.sublist_append_left _ _)
  | error e => rw [handle_of_error h, trace_append]; exact hx.append (hk e)

variable (m : Methods R) (V : Visitor R)

/-- Warnings enter and visit nothing. -/
@[simp] theorem trace_map_warn (p : Path) (ws : List String) :
    trace (ws.map (Act.warn p) : List (Act R)) = [] := by
  induction ws <;> simp_all [Act.node?, Act.spawned]

/-- `visitor.visit(self)` traces its one visit. -/
@[simp] theorem trace_visitCall (p : Path) (r : R) (stack : List R) :
    trace (visitCall V p r stack).acts = [(⟨p, r, stack⟩, true)] := by
  unfold visitCall
  cases h : (V.visit r).2 <;> simp [bind_of_ok, warnAll, raise, Act.node?, Act.spawned, h]

/-- A computation that takes no action and then goes on has the trace of its continuation. -/
theorem trace_lift_bind_sublist {x : Except Exn α} {f : α → Crawl R β} {B : List (Node R × Bool)}
    (hf : ∀ v, trace (f v).acts <+ B) : trace (lift x >>= f).acts <+ B := by
  simpa using trace_bind_sublist (A := []) (by simp) fun v _ => hf v

/-- A report to the visitor enters and visits nothing. -/
@[simp] theorem trace_onChildError (p : Path) (name : String) (report : Report) :
    trace (onChildError V p name report).acts = [] := by
  unfold onChildError
  cases h : V.onChildError name report <;> simp [bind_of_ok, h, raise, Act.node?, Act.spawned]

/-- The `except` clause of the loop enters and visits nothing. -/
@[simp] theorem trace_iterFailure (p : Path) (r : R) (stack : List R) (e : Exn) :
    trace (iterFailure m p r stack e).acts = [] := by
  unfold iterFailure
  split
  · rfl
  · exact List.eq_nil_of_sublist_nil (trace_lift_bind_sublist fun _ => by
      simp [bind_of_ok, Act.node?, Act.spawned])

/-- Driving the iterators that yield nothing enters and visits nothing. -/
@[simp] theorem trace_driveRest (p : Path) (i : Nat) (cs : List String) :
    trace (driveRest p i cs : Crawl R Unit).acts = [] := by
  induction cs generalizing i <;> simp_all [driveRest, bind_of_ok, Act.node?, Act.spawned]

/-- The end of an iterator's output enters and visits nothing. -/
@[simp] theorem trace_raiseOpt (o : Option Exn) : trace (raiseOpt o : Crawl R Unit).acts = [] := by
  cases o <;> rfl

/-- `try_accept` adds nothing to the trace of the `accept` it wraps. -/
theorem trace_tryAccept_sublist (q : Path) (c : R) (stack : List R) {run : Crawl R Unit}
    {A : List (Node R × Bool)} (h : trace run.acts <+ A) :
    trace (tryAccept m V q c stack run).acts <+ A := by
  simpa using trace_handle_sublist (B := []) h fun _ =>
    trace_lift_bind_sublist fun _ => trace_lift_bind_sublist fun _ => by simp

/-- An item of an iterator adds nothing to the trace of its `accept`, dispatched or not. -/
theorem trace_yieldOne_sublist {q : Path} {c : R} {stack : List R} {run : Crawl R Unit}
    {A : List (Node R × Bool)} (h : trace run.acts <+ A) :
    trace (yieldOne m V q c stack run).acts <+ A := by
  have ht := trace_tryAccept_sublist m V q c stack h
  unfold yieldOne dispatchCall
  split
  · split <;> simp_all [emit, Act.node?, Act.spawned]
  · exact ht

/-- An iterator of the loop adds nothing to the trace of what it drives. -/
theorem trace_driveOne_sublist {p : Path} {r : R} {stack : List R} {i : Nat} {cls : String}
    {run : Crawl R Unit} {A : List (Node R × Bool)} (h : trace run.acts <+ A) :
    trace (driveOne m p r stack i cls run).acts <+ A := by
  simpa [driveOne] using trace_bind_sublist (A := []) (by simp [Act.node?, Act.spawned]) fun _ _ =>
    trace_handle_sublist (B := []) (trace_bind_sublist (B := []) h fun _ _ => by simp) fun _ => by simp

/-- The trace of `accept` around a loop: the resource is entered, and if it passes the exclusion
check, visited before the loop's trace. -/
theorem trace_acceptWith_sublist {p : Path} {r : R} {stack : List R}
    {loop : Crawl R (List String)} {A : List (Node R × Bool)} (h : trace loop.acts <+ A) :
    trace (acceptWith m V p r stack loop).acts <+ [(⟨p, r, stack⟩, false)] ++
      if m.passes V.excludedResources r stack then [(⟨p, r, stack⟩, true)] ++ A else [] := by
  unfold acceptWith
  refine trace_bind_sublist (by simp [Act.node?, Act.spawned]) fun _ _ => ?_
  cases hn : m.curResourceRepr r stack with
  | error e => rw [lift_error_bind]; exact List.nil_sublist _
  | ok names =>
    have hpass : m.passes V.excludedResources r stack =
        !names.any (fun n => decide (n ∈ V.excludedResources)) := by
      simp only [Methods.passes, hn]
    rw [lift_ok_bind]
    cases hex : names.any (fun n => decide (n ∈ V.excludedResources))
    · simp only [hpass, hex, Bool.not_false, Bool.false_eq_true, if_false, if_true]
      refine trace_bind_sublist (by simp) fun _ _ => ?_
      simpa using trace_bind_sublist (B := []) h fun _ _ => by
        split
        · simp
        · exact trace_lift_bind_sublist fun _ => by simp
    · simp only [if_true]; exact List.nil_sublist _

end Helpers

/-! ### The trace of `accept` -/

section Accept

variable (m : Methods R) (V : Visitor R)

mutual
/-- Whatever raises and however callbacks are dispatched, what `accept` enters and visits, its
callbacks run in place, is a sublist of the walk. -/
theorem trace_accept_sublist (p : Path) : ∀ (t : Served R) (stack : List R),
    trace (accept m V p t stack).acts <+ walk m V.excludedResources p stack t
  | .node r runs, stack => by
    rw [accept, walk]
    exact trace_acceptWith_sublist m V (trace_driveAll_sublist p r stack 0 (m.contains r) runs)

/-- The loop over the iterators stays within their walk. -/
theorem trace_driveAll_sublist (p : Path) (r : R) (stack : List R) :
    ∀ (i : Nat) (cs : List String) (runs : List (IterRun R)),
      trace (driveAll m V p r stack i cs runs).acts <+
        walkRuns m V.excludedResources p r stack i cs runs
  | _, [], _ => by simp [driveAll]
  | i, c :: cs, [] => by
    simpa [driveAll, walkRuns] using
      trace_bind_sublist (A := []) (B := []) (by simp) fun _ _ => by simp
  | i, c :: cs, run :: runs => by
    rw [driveAll, walkRuns]
    refine trace_bind_sublist (trace_driveOne_sublist m (trace_driveRun_sublist p r stack i run))
      fun _ _ => ?_
    simpa using trace_bind_sublist (B := []) (trace_driveAll_sublist p r stack (i + 1) cs runs)
      fun _ _ => by simp

/-- One iterator stays within the walk of its items. -/
theorem trace_driveRun_sublist (p : Path) (r : R) (stack : List R) (i : Nat) :
    ∀ run : IterRun R, trace (driveRun m V p r stack i run).acts <+
      walkRun m V.excludedResources p r stack i run
  | .mk items raises => by
    rw [driveRun, walkRun]
    simpa using trace_bind_sublist (B := []) (trace_yieldAll_sublist p r stack i 0 items)
      fun _ _ => by simp

/-- The items of one iterator stay within their walks. -/
theorem trace_yieldAll_sublist (p : Path) (r : R) (stack : List R) (i : Nat) :
    ∀ (j : Nat) (items : List (Served R)), trace (yieldAll m V p r stack i j items).acts <+
      walkItems m V.excludedResources p r stack i j items
  | _, [] => by simp [yieldAll]
  | j, c :: cs => by
    rw [yieldAll, walkItems]
    exact trace_bind_sublist
      (trace_yieldOne_sublist m V (trace_accept_sublist (p ++ [(i, j)]) c (stack ++ [r])))
      fun _ _ => trace_yieldAll_sublist p r stack i (j + 1) cs
end

end Accept

/-! ### Computations that return -/

/-- `x` returns `v` after entering and visiting `A`, its dispatched callbacks run in place. -/
def Returns (x : Crawl R α) (A : List (Node R × Bool)) (v : α) : Prop :=
  x.res = .ok v ∧ trace x.acts = A

/-- `pure` returns its value and does nothing. -/
theorem returns_pure (v : α) : Returns (pure v : Crawl R α) [] v := ⟨rfl, rfl⟩

/-- Sequencing adds up the traces, the second part running on the first one's value. -/
theorem returns_bind {x : Crawl R α} {f : α → Crawl R β} {A B : List (Node R × Bool)} {v : α}
    {w : β} (hx : Returns x A v) (hf : Returns (f v) B w) : Returns (x >>= f) (A ++ B) w := by
  rw [Returns, bind_of_ok hx.1, trace_append, hx.2, hf.2]
  exact ⟨hf.1, rfl⟩

/-- A computation that returns never reaches its handler. -/
theorem returns_handle {x : Crawl R α} {A : List (Node R × Bool)} {v : α} (hx : Returns x A v)
    (k : Exn → Crawl R α) : Returns (handle x k) A v := by
  rwa [handle_of_ok hx.1]

/-- One action returns and does itself. -/
theorem returns_emit (a : Act R) : Returns (emit a) (trace [a]) () := ⟨rfl, rfl⟩

/-- An `enter` returns and enters its resource. -/
theorem returns_emit_enter (p : Path) (r : R) (stack : List R) :
    Returns (emit (.enter p r stack)) [(⟨p, r, stack⟩, false)] () :=
  ⟨rfl, by simp [Act.node?, Act.spawned]⟩

section Helpers

variable (m : Methods R) (V : Visitor R)

/-- Nothing raises when `accept` flushes the warnings `ws`: if there are any, the full name
computes and `on_child_error` returns. -/
def Flushes (r : R) (stack : List R) (ws : List String) : Prop :=
  ws ≠ [] → ∃ name, m.fullName r stack = .ok name ∧
    V.onChildError name (.warning ("\n".intercalate ws)) = none

/-- A visit that raises nothing returns its warnings and visits its resource. -/
theorem returns_visitCall {p : Path} {r : R} {stack : List R} (h : (V.visit r).2 = none) :
    Returns (visitCall V p r stack) [(⟨p, r, stack⟩, true)] (V.visit r).1 :=
  ⟨by simp [visitCall, bind_of_ok, warnAll, h], trace_visitCall V p r stack⟩

/-- A report that the visitor does not raise from returns. -/
theorem returns_onChildError {p : Path} {name : String} {report : Report}
    (h : V.onChildError name report = none) : Returns (onChildError V p name report) [] () :=
  ⟨by simp [onChildError, bind_of_ok, h], trace_onChildError V p name report⟩

/-- Driving the iterators that yield nothing returns and enters nothing. -/
theorem returns_driveRest (p : Path) (i : Nat) (cs : List String) :
    Returns (driveRest p i cs : Crawl R Unit) [] () := by
  refine ⟨?_, trace_driveRest p i cs⟩
  induction cs generalizing i <;> simp_all [driveRest, bind_of_ok]

/-- An iterator that returns adds no warning. -/
theorem returns_driveOne {p : Path} {r : R} {stack : List R} {i : Nat} {cls : String}
    {run : Crawl R Unit} {A : List (Node R × Bool)} (h : Returns run A ()) :
    Returns (driveOne m p r stack i cls run) A [] := by
  have hrun : Returns (do run; pure [] : Crawl R (List String)) A [] := by
    simpa using returns_bind (f := fun _ => pure []) h (returns_pure [])
  simpa [driveOne, Act.node?, Act.spawned] using
    returns_bind (returns_emit (.drive p i cls)) (returns_handle hrun (iterFailure m p r stack))

/-- An item whose `accept` returns, inline or deferred, returns with the same trace when its
dispatch does not raise. -/
theorem returns_yieldOne {q : Path} {c : R} {stack : List R} {run : Crawl R Unit}
    {A : List (Node R × Bool)} (hd : m.shouldDispatch c = true → ∀ e, V.dispatch c ≠ .raise e)
    (h : Returns run A ()) : Returns (yieldOne m V q c stack run) A () := by
  have ht : Returns (tryAccept m V q c stack run) A () := returns_handle h _
  unfold yieldOne dispatchCall
  split
  · rename_i hs
    split
    · exact ⟨rfl, by simpa [Act.node?, Act.spawned] using ht.2⟩
    · exact ht
    · exact absurd ‹_› (hd hs _)
  · exact ht

/-- `accept` around a loop that returns no warning: the resource is entered, and if it passes the
exclusion check it is visited before the loop. -/
theorem returns_acceptWith {p : Path} {r : R} {stack : List R} {loop : Crawl R (List String)}
    {A : List (Node R × Bool)} {names : List String} (hn : m.curResourceRepr r stack = .ok names)
    (h : m.passes V.excludedResources r stack = true → (V.visit r).2 = none ∧
      Returns loop A [] ∧ Flushes m V r stack (m.warnings r ++ (V.visit r).1)) :
    Returns (acceptWith m V p r stack loop) ([(⟨p, r, stack⟩, false)] ++
      if m.passes V.excludedResources r stack then [(⟨p, r, stack⟩, true)] ++ A else []) () := by
  have hpass : m.passes V.excludedResources r stack =
      !names.any (fun n => decide (n ∈ V.excludedResources)) := by
    simp only [Methods.passes, hn]
  unfold acceptWith
  refine returns_bind (returns_emit_enter p r stack) ?_
  rw [hn, lift_ok_bind]
  cases hex : names.any (fun n => decide (n ∈ V.excludedResources))
  · obtain ⟨hv, hl, hf⟩ := h (by simp [hpass, hex])
    simp only [hpass, hex, Bool.not_false, Bool.false_eq_true, if_false, if_true]
    refine returns_bind (returns_visitCall V hv) ?_
    simpa using returns_bind hl (A := A) (B := []) (v := []) (w := ()) (by
      simp only [List.append_nil]
      split
      · exact returns_pure ()
      · rename_i hne
        obtain ⟨name, hname, hoce⟩ := hf (by simpa using hne)
        rw [hname, lift_ok_bind]
        exact returns_onChildError V hoce)
  · simp only [hpass, hex, Bool.not_true, Bool.false_eq_true, if_false, if_true]
    exact returns_pure ()

end Helpers

/-! ### A crawl in which nothing raises -/

section Quiet

variable (m : Methods R) (V : Visitor R)

mutual
/-- No exception is raised in the crawl of `t` at `p` on `stack`, its dispatched callbacks
included: the names of the resource compute and, if it passes the exclusion check, its visit, its
iterators and the flush of its warnings raise nothing. -/
def Quiet (p : Path) (stack : List R) : Served R → Prop
  | .node r runs => (m.curResourceRepr r stack).isOk = true ∧
      (m.passes V.excludedResources r stack = true → (V.visit r).2 = none ∧
        QuietRuns p r stack 0 (m.contains r) runs ∧
        Flushes m V r stack (m.warnings r ++ (V.visit r).1))

/-- No exception is raised by the iterators of `r` from the `i`-th, nor under them. -/
def QuietRuns (p : Path) (r : R) (stack : List R) :
    Nat → List String → List (IterRun R) → Prop
  | _, [], _ => True
  | _, _ :: _, [] => True
  | i, _ :: cs, .mk items raises :: runs =>
    raises = none ∧ QuietItems p r stack i 0 items ∧ QuietRuns p r stack (i + 1) cs runs

/-- No exception is raised by the items of the `i`-th iterator of `r` from the `j`-th: neither
their dispatch nor their crawl. -/
def QuietItems (p : Path) (r : R) (stack : List R) (i : Nat) : Nat → List (Served R) → Prop
  | _, [] => True
  | j, c :: cs => (m.shouldDispatch c.res = true → ∀ e, V.dispatch c.res ≠ .raise e) ∧
      Quiet (p ++ [(i, j)]) (stack ++ [r]) c ∧ QuietItems p r stack i (j + 1) cs
end

mutual
/-- When nothing raises, `accept` returns and enters and visits the whole walk. -/
theorem accept_returns_walk (p : Path) : ∀ (t : Served R) (stack : List R), Quiet m V p stack t →
    Returns (accept m V p t stack) (walk m V.excludedResources p stack t) ()
  | .node r runs, stack, ⟨hn, h⟩ => by
    obtain ⟨names, hn⟩ : ∃ names, m.curResourceRepr r stack = .ok names := by
      cases hc : m.curResourceRepr r stack <;> simp_all [Except.isOk, Except.toBool]
    rw [accept, walk]
    exact returns_acceptWith m V hn fun hp =>
      ⟨(h hp).1, driveAll_returns_walk p r stack 0 _ runs (h hp).2.1, (h hp).2.2⟩

/-- When nothing raises, the loop over the iterators returns no warning and walks them all. -/
theorem driveAll_returns_walk (p : Path) (r : R) (stack : List R) :
    ∀ (i : Nat) (cs : List String) (runs : List (IterRun R)), QuietRuns m V p r stack i cs runs →
      Returns (driveAll m V p r stack i cs runs)
        (walkRuns m V.excludedResources p r stack i cs runs) []
  | _, [], _, _ => by simpa [driveAll, walkRuns] using returns_pure (R := R) []
  | i, c :: cs, [], _ => by
    simpa [driveAll, walkRuns] using returns_bind (returns_driveRest p i (c :: cs)) (returns_pure [])
  | i, c :: cs, .mk items raises :: runs, ⟨hr, hi, hrs⟩ => by
    subst hr
    have hrun : Returns (driveRun m V p r stack i (.mk items none))
        (walkItems m V.excludedResources p r stack i 0 items) () := by
      simpa [driveRun, raiseOpt] using returns_bind (f := fun _ => pure ())
        (yieldAll_returns_walk p r stack i 0 items hi) (returns_pure ())
    have hrest : Returns (do let ws ← driveAll m V p r stack (i + 1) cs runs; pure ([] ++ ws))
        (walkRuns m V.excludedResources p r stack (i + 1) cs runs) [] := by
      simpa using returns_bind (f := fun ws => pure ([] ++ ws))
        (driveAll_returns_walk p r stack (i + 1) cs runs hrs) (returns_pure [])
    rw [driveAll, walkRuns, walkRun]
    exact returns_bind (returns_driveOne m hrun) hrest

/-- When nothing raises, the loop over an iterator's items walks them all. -/
theorem yieldAll_returns_walk (p : Path) (r : R) (stack : List R) (i : Nat) :
    ∀ (j : Nat) (items : List (Served R)), QuietItems m V p r stack i j items →
      Returns (yieldAll m V p r stack i j items)
        (walkItems m V.excludedResources p r stack i j items) ()
  | _, [], _ => by simpa [yieldAll, walkItems] using returns_pure (R := R) ()
  | j, c :: cs, ⟨hd, hc, hcs⟩ => by
    rw [yieldAll, walkItems]
    exact returns_bind
      (returns_yieldOne m V hd (accept_returns_walk (p ++ [(i, j)]) c (stack ++ [r]) hc))
      (yieldAll_returns_walk p r stack i (j + 1) cs hcs)
end

end Quiet

/-! ### Every finished schedule of a quiet crawl -/

section Done

variable (m : Methods R) (V : Visitor R)

/-- Every finished schedule enters and visits what the crawl's callbacks, run in place, enter and
visit. -/
theorem mem_log_of_trace {t : Served R} {s : Pool R} (hs : Reachable m V t s) (hd : s.Done)
    {x : Node R × Bool} (hx : x ∈ trace (accept m V [] t []).acts) :
    x ∈ s.log.filterMap Act.node? :=
  ((done_log_perm m V hs hd).filterMap _).mem_iff.mpr hx

/-- The same for one entry: the resource's `enter` action. -/
theorem enter_mem_log_of_trace {t : Served R} {s : Pool R} (hs : Reachable m V t s) (hd : s.Done)
    {p : Path} {r : R} {stack : List R} (hx : (⟨p, r, stack⟩, false) ∈ trace (accept m V [] t []).acts) :
    .enter p r stack ∈ s.log := by
  obtain ⟨a, ha, hna⟩ := List.mem_filterMap.mp (mem_log_of_trace m V hs hd hx)
  obtain rfl : a = .enter p r stack := by cases a <;> simp_all [Act.node?]
  exact ha

/-- In a crawl in which nothing raises, every finished schedule enters and visits what the walk
enters and visits. -/
theorem mem_log_of_walk {t : Served R} (hq : Quiet m V [] [] t) {s : Pool R}
    (hs : Reachable m V t s) (hd : s.Done) {x : Node R × Bool}
    (hw : x ∈ walk m V.excludedResources [] [] t) : x ∈ s.log.filterMap Act.node? :=
  mem_log_of_trace m V hs hd ((accept_returns_walk m V [] t [] hq).2 ▸ hw)

/-- The same for one entry: the resource's `enter` action. -/
theorem enter_mem_log_of_walk {t : Served R} (hq : Quiet m V [] [] t) {s : Pool R}
    (hs : Reachable m V t s) (hd : s.Done) {p : Path} {r : R} {stack : List R}
    (hw : (⟨p, r, stack⟩, false) ∈ walk m V.excludedResources [] [] t) :
    .enter p r stack ∈ s.log :=
  enter_mem_log_of_trace m V hs hd ((accept_returns_walk m V [] t [] hq).2 ▸ hw)

/-- The same for one visit: the resource's `visit` action. -/
theorem visit_mem_log_of_walk {t : Served R} (hq : Quiet m V [] [] t) {s : Pool R}
    (hs : Reachable m V t s) (hd : s.Done) {p : Path} {r : R} {stack : List R}
    (hw : (⟨p, r, stack⟩, true) ∈ walk m V.excludedResources [] [] t) :
    .visit p r stack ∈ s.log := by
  obtain ⟨a, ha, hna⟩ := List.mem_filterMap.mp (mem_log_of_walk m V hq hs hd hw)
  obtain rfl : a = .visit p r stack := by cases a <;> simp_all [Act.node?]
  exact ha

end Done

end InventoryCrawler
