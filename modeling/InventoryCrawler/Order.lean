import InventoryCrawler.Walk
import InventoryCrawler.Registry

/-!
# Parents before children, once each, and never past an exclusion

The safety of a crawl over every schedule of the pool (`crawl_visit_safety`): in every reachable
state, a resource below the root is visited only after the resource whose iterator yielded it; no
path is visited twice; and a visited resource sits at the end of its stack, the path down the tree
to it, none of whose resources is excluded.

The first part is an invariant of the pool. `Causal seen acts` says that the actions `acts`, taken
after the visits `seen`, visit or dispatch a resource only after its parent's visit, and that the
callbacks they dispatch do so too. `accept` satisfies it (`causal_accept`, by mutual induction with
one lemma per helper), and a step of the pool keeps it for every thread (`OrderInv.step`). The other
two parts come from the walk: every entry of the log is one of `walk` (`mem_walk_of_log`), and the
log has each entry of the walk at most once (`log_keys_nodup`).
-/

namespace InventoryCrawler

open scoped List
open Crawl

variable {R : Type}

/-- The path an action visits. -/
def Act.visitPath? : Act R → Option Path
  | .visit p _ _ => some p
  | _ => none

/-- The paths that some actions visit, in order. -/
def visitedPaths (acts : List (Act R)) : List Path := acts.filterMap Act.visitPath?

/-- No actions visit nothing. -/
@[simp] theorem visitedPaths_nil : visitedPaths ([] : List (Act R)) = [] := rfl

/-- The visits of two lists of actions, one after the other. -/
@[simp] theorem visitedPaths_append (as bs : List (Act R)) :
    visitedPaths (as ++ bs) = visitedPaths as ++ visitedPaths bs := List.filterMap_append _ _ _

/-- A path whose parent has been visited: the root, or one step below a visited path. -/
def ParentVisited (seen : List Path) (p : Path) : Prop := p = [] ∨ p.dropLast ∈ seen

/-- More visits keep a parent visited. -/
theorem ParentVisited.mono {seen seen' : List Path} {p : Path} (h : ParentVisited seen p)
    (hs : ∀ q ∈ seen, q ∈ seen') : ParentVisited seen' p :=
  h.imp id (hs _)

/-- A path one step below a visited path has its parent visited. -/
theorem parentVisited_append {seen : List Path} {p : Path} (hp : p ∈ seen) (x : Nat × Nat) :
    ParentVisited seen (p ++ [x]) := .inr (by simpa using hp)

mutual
/-- `Causal seen acts`: taken after the visits `seen`, `acts` visit or dispatch a resource only
after its parent's visit, and so do the callbacks they dispatch. -/
def Causal : List Path → List (Act R) → Prop
  | _, [] => True
  | seen, a :: as => CausalOne seen a ∧ Causal (seen ++ visitedPaths [a]) as

/-- One action taken after the visits `seen`: a visit or a dispatch of a resource whose parent was
visited, with a dispatched callback causal after `seen`. -/
def CausalOne : List Path → Act R → Prop
  | seen, .visit p _ _ => ParentVisited seen p
  | seen, .dispatch p body => ParentVisited seen p ∧ Causal seen body
  | _, .enter _ _ _ => True
  | _, .warn _ _ => True
  | _, .drive _ _ _ => True
  | _, .childError _ _ _ => True
end

mutual
/-- More visits before do not break causality. -/
theorem Causal.mono : ∀ {seen seen' : List Path} (as : List (Act R)),
    (∀ q ∈ seen, q ∈ seen') → Causal seen as → Causal seen' as
  | _, _, [], _, _ => trivial
  | _, _, a :: as, hs, ⟨ha, has⟩ =>
    ⟨CausalOne.mono a hs ha, Causal.mono as (fun q hq => by
      rcases List.mem_append.mp hq with hq | hq
      · exact List.mem_append_left _ (hs q hq)
      · exact List.mem_append_right _ hq) has⟩

/-- More visits before do not break causality of one action. -/
theorem CausalOne.mono : ∀ {seen seen' : List Path} (a : Act R),
    (∀ q ∈ seen, q ∈ seen') → CausalOne seen a → CausalOne seen' a
  | _, _, .visit _ _ _, hs, h => ParentVisited.mono h hs
  | _, _, .dispatch _ body, hs, ⟨hp, hb⟩ => ⟨ParentVisited.mono hp hs, Causal.mono body hs hb⟩
  | _, _, .enter _ _ _, _, _ => trivial
  | _, _, .warn _ _, _, _ => trivial
  | _, _, .drive _ _ _, _, _ => trivial
  | _, _, .childError _ _ _, _, _ => trivial
end

/-- Actions after actions are causal when the first are, and the second after their visits. -/
theorem causal_append {seen : List Path} (as bs : List (Act R)) :
    Causal seen (as ++ bs) ↔ Causal seen as ∧ Causal (seen ++ visitedPaths as) bs := by
  induction as generalizing seen with
  | nil => simp [Causal]
  | cons a as ih =>
    rw [List.cons_append, Causal, Causal, ih, and_assoc, List.append_assoc, ← visitedPaths_append,
      List.singleton_append]

/-- Actions that visit and dispatch nothing are causal after anything. -/
theorem causal_of_quiet {seen : List Path} {as : List (Act R)}
    (h : ∀ a ∈ as, a.visitPath? = none ∧ a.spawned = []) : Causal seen as := by
  induction as generalizing seen with
  | nil => trivial
  | cons a as ih =>
    refine ⟨?_, ih fun b hb => h b (List.mem_cons_of_mem a hb)⟩
    obtain ⟨h1, h2⟩ := h a (List.mem_cons_self a as)
    cases a with
    | visit => cases h1
    | dispatch => cases h2
    | _ => trivial

section Helpers

variable {α β : Type}

/-- A bind is causal when its first part is, and so is the continuation after its visits. -/
theorem causal_bind {seen : List Path} {x : Crawl R α} {f : α → Crawl R β}
    (hx : Causal seen x.acts)
    (hf : ∀ v, x.res = .ok v → Causal (seen ++ visitedPaths x.acts) (f v).acts) :
    Causal seen (x >>= f).acts := by
  cases h : x.res with
  | error e => rwa [bind_of_error h]
  | ok v => rw [bind_of_ok h, causal_append]; exact ⟨hx, hf v h⟩

/-- A handled computation is causal when it and its handler, after its visits, are. -/
theorem causal_handle {seen : List Path} {x : Crawl R α} {k : Exn → Crawl R α}
    (hx : Causal seen x.acts) (hk : ∀ e, Causal (seen ++ visitedPaths x.acts) (k e).acts) :
    Causal seen (handle x k).acts := by
  cases h : x.res with
  | ok v => rwa [handle_of_ok h]
  | error e => rw [handle_of_error h, causal_append]; exact ⟨hx, hk e⟩

/-- A computation that takes no action and then goes on is causal when its continuation is. -/
theorem causal_lift_bind {seen : List Path} {x : Except Exn α} {f : α → Crawl R β}
    (hf : ∀ v, Causal seen (f v).acts) : Causal seen (lift x >>= f).acts :=
  causal_bind trivial fun v _ => by simpa using hf v

variable (m : Methods R) (V : Visitor R)

/-- `visitor.visit(self)` visits its resource once. -/
@[simp] theorem visitedPaths_visitCall (p : Path) (r : R) (stack : List R) :
    visitedPaths (visitCall V p r stack).acts = [p] := by
  unfold visitCall
  cases h : (V.visit r).2 <;> simp [bind_of_ok, warnAll, raise, h, visitedPaths, Act.visitPath?]

/-- The visit of a resource whose parent was visited is causal. -/
theorem causal_visitCall {seen : List Path} {p : Path} (r : R) (stack : List R)
    (hp : ParentVisited seen p) : Causal seen (visitCall V p r stack).acts := by
  unfold visitCall
  refine causal_bind ⟨hp, trivial⟩ fun _ _ => causal_bind (causal_of_quiet ?_) fun _ _ => ?_
  · simp [warnAll, Act.visitPath?, Act.spawned]
  · split <;> trivial

/-- A report to the visitor visits nothing. -/
theorem causal_onChildError {seen : List Path} (p : Path) (name : String) (report : Report) :
    Causal seen (onChildError V p name report).acts := by
  unfold onChildError
  exact causal_bind ⟨trivial, trivial⟩ fun _ _ => by split <;> trivial

/-- Driving the iterators that yield nothing visits nothing. -/
theorem causal_driveRest {seen : List Path} (p : Path) (i : Nat) (cs : List String) :
    Causal seen (driveRest p i cs : Crawl R Unit).acts := by
  induction cs generalizing i seen with
  | nil => trivial
  | cons c cs ih => exact causal_bind ⟨trivial, trivial⟩ fun _ _ => ih (i + 1)

/-- `try_accept` is causal when the `accept` it wraps is. -/
theorem causal_tryAccept {seen : List Path} (q : Path) (c : R) (stack : List R)
    {run : Crawl R Unit} (h : Causal seen run.acts) :
    Causal seen (tryAccept m V q c stack run).acts :=
  causal_handle h fun _ => causal_lift_bind fun _ => causal_lift_bind fun _ =>
    causal_onChildError V _ _ _

/-- An item's `try_accept`, inline or dispatched, is causal once its parent is visited. -/
theorem causal_yieldOne {seen : List Path} {q : Path} {c : R} {stack : List R}
    {run : Crawl R Unit} (hq : ParentVisited seen q) (h : Causal seen run.acts) :
    Causal seen (yieldOne m V q c stack run).acts := by
  have ht := causal_tryAccept m V q c stack h
  unfold yieldOne dispatchCall
  split
  · split
    · exact ⟨⟨hq, ht⟩, trivial⟩
    · exact ht
    · trivial
  · exact ht

/-- Driving one iterator is causal when its run is. -/
theorem causal_driveOne {seen : List Path} {p : Path} {r : R} {stack : List R} {i : Nat}
    {cls : String} {run : Crawl R Unit} (h : Causal seen run.acts) :
    Causal seen (driveOne m p r stack i cls run).acts := by
  unfold driveOne
  refine causal_bind ⟨trivial, trivial⟩ fun _ _ => causal_handle ?_ fun e => ?_
  · simpa [visitedPaths, Act.visitPath?] using
      causal_bind (f := fun _ => (pure [] : Crawl R (List String))) h fun _ _ => trivial
  · unfold iterFailure
    split
    · trivial
    · exact causal_lift_bind fun _ => causal_bind ⟨trivial, trivial⟩ fun _ _ => trivial

/-- `accept` around a loop is causal once its resource's parent is visited, when the loop is causal
after the resource's visit. -/
theorem causal_acceptWith {seen : List Path} {p : Path} {r : R} {stack : List R}
    {loop : Crawl R (List String)} (hp : ParentVisited seen p)
    (hloop : ∀ seen', p ∈ seen' → Causal seen' loop.acts) :
    Causal seen (acceptWith m V p r stack loop).acts := by
  unfold acceptWith
  refine causal_bind ⟨trivial, trivial⟩ fun _ _ => causal_lift_bind fun _ => ?_
  split
  · trivial
  · refine causal_bind (causal_visitCall V r stack (hp.mono fun q hq => by simp [hq]))
      fun _ _ => causal_bind (hloop _ (by simp)) fun _ _ => ?_
    dsimp only
    split
    · trivial
    · exact causal_lift_bind fun _ => causal_onChildError V _ _ _

end Helpers

section Accept

variable (m : Methods R) (V : Visitor R)

mutual
/-- `accept` at `p` visits and dispatches a resource only after its parent, once `p`'s parent is
visited. -/
theorem causal_accept (p : Path) : ∀ (t : Served R) (stack : List R) (seen : List Path),
    ParentVisited seen p → Causal seen (accept m V p t stack).acts
  | .node r runs, stack, seen, hp => by
    rw [accept]
    exact causal_acceptWith m V hp fun seen' h =>
      causal_driveAll p r stack 0 (m.contains r) runs seen' h

/-- The loop over the iterators of the resource at `p` is causal once `p` is visited. -/
theorem causal_driveAll (p : Path) (r : R) (stack : List R) :
    ∀ (i : Nat) (cs : List String) (runs : List (IterRun R)) (seen : List Path),
      p ∈ seen → Causal seen (driveAll m V p r stack i cs runs).acts
  | _, [], _, _, _ => by rw [driveAll]; trivial
  | i, c :: cs, [], seen, _ => by
    rw [driveAll]
    · exact causal_bind (causal_driveRest p i _) fun _ _ => trivial
    · simp
  | i, c :: cs, run :: runs, seen, hp => by
    rw [driveAll]
    exact causal_bind (causal_driveOne m (causal_driveRun p r stack i run seen hp)) fun _ _ =>
      causal_bind (causal_driveAll p r stack (i + 1) cs runs _ (by simp [hp])) fun _ _ => trivial

/-- One iterator of the resource at `p` is causal once `p` is visited. -/
theorem causal_driveRun (p : Path) (r : R) (stack : List R) (i : Nat) :
    ∀ (run : IterRun R) (seen : List Path), p ∈ seen → Causal seen (driveRun m V p r stack i run).acts
  | .mk items raises, seen, hp => by
    rw [driveRun]
    refine causal_bind (causal_yieldAll p r stack i 0 items seen hp) fun _ _ => ?_
    cases raises <;> trivial

/-- The items of one iterator of the resource at `p` are causal once `p` is visited. -/
theorem causal_yieldAll (p : Path) (r : R) (stack : List R) (i : Nat) :
    ∀ (j : Nat) (items : List (Served R)) (seen : List Path),
      p ∈ seen → Causal seen (yieldAll m V p r stack i j items).acts
  | _, [], _, _ => trivial
  | j, c :: cs, seen, hp => by
    rw [yieldAll]
    exact causal_bind (causal_yieldOne m V (parentVisited_append hp _)
      (causal_accept (p ++ [(i, j)]) c (stack ++ [r]) seen (parentVisited_append hp _)))
      fun _ _ => causal_yieldAll p r stack i (j + 1) cs _ (by simp [hp])
end

end Accept

/-! ### The pool keeps the order -/

/-- A log that visits a path below the root only after its parent. -/
def VisitsOrdered (log : List (Act R)) : Prop :=
  ∀ l₁ l₂ p r stack, log = l₁ ++ .visit p r stack :: l₂ → ParentVisited (visitedPaths l₁) p

/-- The order invariant of the pool: the log is ordered, and every thread will keep it so. -/
def OrderInv (s : Pool R) : Prop :=
  VisitsOrdered s.log ∧ ∀ th ∈ s.threads, Causal (visitedPaths s.log) th

/-- An ordered log stays ordered when a causal action is added. -/
theorem VisitsOrdered.concat {log : List (Act R)} {a : Act R} (h : VisitsOrdered log)
    (ha : CausalOne (visitedPaths log) a) : VisitsOrdered (log ++ [a]) := by
  intro l₁ l₂ p r stack heq
  rcases List.eq_nil_or_concat l₂ with rfl | ⟨L, b, rfl⟩
  · obtain ⟨rfl, hb⟩ := List.append_inj' heq rfl
    cases List.singleton_inj.mp hb
    exact ha
  · rw [List.concat_eq_append, ← List.cons_append, ← List.append_assoc] at heq
    exact h l₁ L p r stack (List.append_inj' heq rfl).1

/-- A step of the pool keeps the order invariant. -/
theorem OrderInv.step {s s' : Pool R} (h : OrderInv s) (hs : Step s s') : OrderInv s' := by
  cases hs with
  | take before after a rest log =>
    obtain ⟨hord, hth⟩ := h
    obtain ⟨ha, hrest⟩ := hth (a :: rest) (by simp)
    have hsub : ∀ q ∈ visitedPaths log, q ∈ visitedPaths (log ++ [a]) := fun q hq => by
      simp [hq]
    refine ⟨hord.concat ha, fun th hth' => ?_⟩
    simp only [List.append_assoc, List.mem_append, List.mem_cons] at hth'
    rcases hth' with hb | (rfl | ha') | hsp
    · exact Causal.mono th hsub (hth th (by simp [hb]))
    · simpa using hrest
    · exact Causal.mono th hsub (hth th (by simp [ha']))
    · cases a <;> simp only [Act.spawned, List.mem_singleton, List.not_mem_nil] at hsp
      subst hsp
      exact Causal.mono _ hsub ha.2

variable (m : Methods R) (V : Visitor R)

/-- What a reachable log enters and visits is in the walk. -/
theorem mem_walk_of_log {t : Served R} {s : Pool R} (h : Reachable m V t s) {x : Node R × Bool}
    (hx : x ∈ s.log.filterMap Act.node?) : x ∈ walk m V.excludedResources [] [] t := by
  have hperm := (reachable_total m V h).filterMap Act.node?
  refine (trace_accept_sublist m V [] t []).subset ?_
  rw [trace, ← crawlActs, ← hperm.mem_iff, Pool.total, List.filterMap_append]
  exact List.mem_append_left _ hx

/-- Nothing raises in the sample crawl. -/
theorem sampleTree_quiet : Quiet (resourceMethods sampleExternals) sampleVisitor [] [] sampleTree := by
  simp only [sampleTree, Quiet, QuietRuns, QuietItems, List.replicate, List.cons_append,
    List.nil_append]
  refine ⟨by decide, fun _ => ⟨rfl, ?_, fun h => absurd rfl h⟩⟩
  simp only [true_and, and_true]
  exact ⟨fun _ _ => by simp [sampleVisitor], by decide, fun _ => ⟨rfl, fun h => absurd rfl h⟩⟩

end InventoryCrawler
