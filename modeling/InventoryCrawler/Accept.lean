import InventoryCrawler.Resource

/-!
# `accept` and `try_accept`

The crawl of `resources.py` is `Resource.accept(visitor, stack)`: store the stack, return if the
resource is excluded, `visitor.visit(self)`, then for each iterator class of `self._contains` make
the iterator and run `try_accept` on every resource it yields, inline or through
`visitor.dispatch`; an exception from one iterator ends it and, unless it is a benign
`ApiExecutionError`, becomes a warning; last, the warnings go to `visitor.on_child_error`.
`try_accept` wraps `accept` and reports what it raises.

The client's answers over one crawl are a tree (`Served`): a resource and, per iterator, the
resources it yielded and the exception it ended with. The visitor's answers are functions of the
call (`Visitor`). `accept` is translated as the action list of the thread that runs it, by mutual
structural recursion over the tree: `driveAll` is the loop over `self._contains`, `driveRun` the
loop over one iterator, and `yieldAll` its body. A dispatched callback is not run in place: its
`dispatch` action carries its actions, which `Pool.lean` runs on a worker.
-/

namespace InventoryCrawler

/-- What `dispatch(callback)` does with a callback. A parallel crawler hands it to its pool; a
sequential one calls it at once, so that what the callback raises comes out of `dispatch`; and the
call may itself raise. -/
inductive Dispatch where
  | defer
  | runNow
  | raise (e : Exn)
  deriving DecidableEq, Repr

/-- The visitor of a crawl as `accept` sees it (the crawler classes are not in the repository's
sources): its configuration, and its answers to each call as functions of the call's arguments. -/
structure Visitor (R : Type) where
  /-- `config.variables['excluded_resources']`. -/
  excludedResources : List String
  /-- `visit(resource)`: the warnings that the side-band fetches it makes record on the resource,
  and the exception it raises, if any. -/
  visit : R → List String × Option Exn
  /-- `dispatch(callback)` for the callback of a resource. -/
  dispatch : R → Dispatch
  /-- `on_child_error(name, report)`: the exception it raises, if any. -/
  onChildError : String → Report → Option Exn

mutual
/-- The client's answers over one crawl: a resource, and for each class of its `contains` list, in
order, what that iterator produced. -/
inductive Served (R : Type) where
  | node (r : R) (runs : List (IterRun R))
/-- What one iterator's `iter()` produced: the resources it yielded, in order, and the exception it
raised after them, if any. -/
inductive IterRun (R : Type) where
  | mk (items : List (Served R)) (raises : Option Exn)
end

/-- The resource at the top of a served tree. -/
def Served.res {R : Type} : Served R → R
  | .node r _ => r

/-- The resources an iterator yielded. -/
def IterRun.items {R : Type} : IterRun R → List (Served R)
  | .mk items _ => items

/-- `t.YieldPath q rs`: going down `t` along `q` passes the resources `rs`, the top first; a step
`(i, j)` goes to the `j`-th item of the `i`-th iterator. -/
inductive Served.YieldPath {R : Type} : Served R → Path → List R → Prop
  | top (r : R) (runs : List (IterRun R)) : YieldPath (.node r runs) [] [r]
  | down {r : R} {runs : List (IterRun R)} {i j : Nat} {run : IterRun R} {c : Served R} {q : Path}
      {rs : List R} : runs[i]? = some run → run.items[j]? = some c → YieldPath c q rs →
      YieldPath (.node r runs) ((i, j) :: q) (r :: rs)

open Crawl

variable {R : Type} (m : Methods R) (V : Visitor R)

/-- Warnings recorded on the resource at `p`. -/
def warnAll (p : Path) (ws : List String) : Crawl R Unit := ⟨ws.map (.warn p), .ok ()⟩

/-- `visitor.visit(self)`: the call, the warnings it records on the resource, then the exception
it raises. -/
def visitCall (p : Path) (r : R) (stack : List R) : Crawl R (List String) := do
  emit (.visit p r stack)
  warnAll p (V.visit r).1
  match (V.visit r).2 with
  | some e => raise e
  | none => pure (V.visit r).1

/-- `visitor.on_child_error(name, report)` about the resource at `p`. -/
def onChildError (p : Path) (name : String) (report : Report) : Crawl R Unit := do
  emit (.childError p name report)
  match V.onChildError name report with
  | some e => raise e
  | none => pure ()

/-- The `except` clause of `accept`'s loop: nothing for a benign `ApiExecutionError`, and otherwise
the warning `'Exception raised processing %s: %s' % (self, e)`, recorded and returned. Computing
`repr(self)` may raise in turn. -/
def iterFailure (p : Path) (r : R) (stack : List R) (e : Exn) : Crawl R (List String) :=
  if e.isSkipped then pure [] else do
    let s ← lift (m.repr r stack)
    let w := "Exception raised processing " ++ s ++ ": " ++ e.str
    emit (.warn p w)
    pure [w]

/-- `try_accept`: the callback `run`, which is `accept`, and on an exception `repr(self)`,
`get_full_resource_name()` and `on_child_error(name, e)`, each of which may raise in turn. -/
def tryAccept (p : Path) (r : R) (stack : List R) (run : Crawl R Unit) : Crawl R Unit :=
  handle run fun e => do
    let _ ← lift (m.repr r stack)
    let name ← lift (m.fullName r stack)
    onChildError V p name (.exn e)

/-- `visitor.dispatch(callback)` for the resource at `p`. -/
def dispatchCall (p : Path) (r : R) (callback : Crawl R Unit) : Crawl R Unit :=
  match V.dispatch r with
  | .defer => emit (.dispatch p callback.acts)
  | .runNow => callback
  | .raise e => raise e

/-- The iterators of `contains` after the client's answers ran out: each is made and driven, and
yields nothing. -/
def driveRest (p : Path) : Nat → List String → Crawl R Unit
  | _, [] => pure ()
  | i, c :: cs => do
    emit (.drive p i c)
    driveRest p (i + 1) cs

/-- The end of an iterator's output: the exception it raised, if any. -/
def raiseOpt : Option Exn → Crawl R Unit
  | some e => raise e
  | none => pure ()

/-- `accept` of the resource `r` at `p`, around `loop`, its loop over the iterators: store the
stack, return if excluded, `visitor.visit(self)`, the loop, and if any warning was recorded,
`on_child_error(self.get_full_resource_name(), self.get_warning())`. -/
def acceptWith (p : Path) (r : R) (stack : List R) (loop : Crawl R (List String)) :
    Crawl R Unit := do
  emit (.enter p r stack)
  let names ← lift (m.curResourceRepr r stack)
  if names.any (fun n => decide (n ∈ V.excludedResources)) then pure () else do
    let ws ← visitCall V p r stack
    let ws' ← loop
    let warnings := m.warnings r ++ ws ++ ws'
    if warnings.isEmpty then pure () else do
      let name ← lift (m.fullName r stack)
      onChildError V p name (.warning ("\n".intercalate warnings))

/-- One pass of the loop over `self._contains`: the `i`-th iterator, of class `cls`, is made and
driven (`run`), and what it raises goes to `iterFailure`. -/
def driveOne (p : Path) (r : R) (stack : List R) (i : Nat) (cls : String) (run : Crawl R Unit) :
    Crawl R (List String) := do
  emit (.drive p i cls)
  handle (do run; pure []) (iterFailure m p r stack)

/-- One pass of the loop over an iterator's items: the item `c` at `q`, whose `accept` is `run`,
goes through `try_accept`, dispatched when `should_dispatch()` holds and inline otherwise. -/
def yieldOne (q : Path) (c : R) (stack : List R) (run : Crawl R Unit) : Crawl R Unit :=
  if m.shouldDispatch c then dispatchCall V q c (tryAccept m V q c stack run)
  else tryAccept m V q c stack run

mutual
/-- `Resource.accept(visitor, stack)` of the resource at `p`. -/
def accept (p : Path) : Served R → List R → Crawl R Unit
  | .node r runs, stack => acceptWith m V p r stack (driveAll p r stack 0 (m.contains r) runs)

/-- The loop over `self._contains`, each class with what its iterator produced: the warnings the
loop records. -/
def driveAll (p : Path) (r : R) (stack : List R) :
    Nat → List String → List (IterRun R) → Crawl R (List String)
  | _, [], _ => pure []
  | i, cs, [] => do
    driveRest p i cs
    pure []
  | i, c :: cs, run :: runs => do
    let w ← driveOne m p r stack i c (driveRun p r stack i run)
    let ws ← driveAll p r stack (i + 1) cs runs
    pure (w ++ ws)

/-- `for resource in yielder.iter()` over the `i`-th iterator: its items, then the exception it
raised after them. -/
def driveRun (p : Path) (r : R) (stack : List R) (i : Nat) : IterRun R → Crawl R Unit
  | .mk items raises => do
    yieldAll p r stack i 0 items
    raiseOpt raises

/-- The loop over one iterator's items, from the `j`-th: each child at `p ++ [(i, j)]` with
`new_stack = stack + [self]`. -/
def yieldAll (p : Path) (r : R) (stack : List R) (i : Nat) : Nat → List (Served R) → Crawl R Unit
  | _, [] => pure ()
  | j, c :: cs => do
    yieldOne m V (p ++ [(i, j)]) c.res (stack ++ [r]) (accept (p ++ [(i, j)]) c (stack ++ [r]))
    yieldAll p r stack i (j + 1) cs
end

end InventoryCrawler
