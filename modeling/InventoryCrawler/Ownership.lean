import InventoryCrawler.Warnings

/-!
# The actions about one resource are one thread's

The pool runs `accept` of the root on the caller's thread and each dispatched `try_accept`
callback on a worker, and the threads share the resource objects. This module shows what keeps
that sharing in order: in every reachable state, the actions about one resource, taken or still to
take, are those of one thread, and what the pool has taken and has still to take about it is, in
order, what the serial crawl does about it (`next_onPath`).

Two invariants of the pool give it. A thread keeps each callback it dispatches apart from what
follows the dispatch: the callback acts at and below its item, and the rest of the thread never
does (`Seg`). `accept` satisfies it, by mutual induction with one lemma per helper
(`segIn_accept`). And no two threads act on a common resource (`Apart`), which a step keeps, since
the thread a dispatch starts comes out of the thread that dispatched it (`Owned.step`).
-/

namespace InventoryCrawler

open scoped List
open Crawl

variable {R : Type}

/-! ### Where the loops act -/

section Loops

variable (m : Methods R) (V : Visitor R)

/-- The items of an iterator from the `j`-th on act at and below those items. -/
theorem yieldAll_actsOn_from (p : Path) (r : R) (stack : List R) (i : Nat) :
    ∀ (j : Nat) (items : List (Served R)),
      ActsOn (fun y => ∃ j' ≥ j, p ++ [(i, j')] <+: y) (yieldAll m V p r stack i j items).acts
  | _, [] => actsOn_nil rfl
  | j, c :: cs => by
    rw [yieldAll]
    refine actsOn_bind (actsOn_yieldOne m V ⟨j, le_rfl, List.prefix_refl _⟩
      ((accept_actsOn m V _ c _).mono fun _ h => ⟨j, le_rfl, h⟩)) fun _ => ?_
    exact (yieldAll_actsOn_from p r stack i (j + 1) cs).mono fun _ ⟨j', hj, h⟩ =>
      ⟨j', by omega, h⟩

/-- The `i`-th iterator of the resource at `p` acts below its own items. -/
theorem driveRun_actsOn_at (p : Path) (r : R) (stack : List R) (i : Nat) (run : IterRun R) :
    ActsOn (fun y => ∃ j, p ++ [(i, j)] <+: y) (driveRun m V p r stack i run).acts := by
  obtain ⟨items, raises⟩ := run
  rw [driveRun]
  refine actsOn_bind ((yieldAll_actsOn_from m V p r stack i 0 items).mono
    fun _ ⟨j, _, h⟩ => ⟨j, h⟩) fun _ => ?_
  cases raises <;> exact actsOn_nil rfl

/-- The loop from the `i`-th iterator on acts on its resource and below the items of the
iterators from the `i`-th on. -/
theorem driveAll_actsOn_from (p : Path) (r : R) (stack : List R) :
    ∀ (i : Nat) (cs : List String) (runs : List (IterRun R)),
      ActsOn (fun y => y = p ∨ ∃ i' ≥ i, ∃ j, p ++ [(i', j)] <+: y)
        (driveAll m V p r stack i cs runs).acts
  | _, [], _ => by rw [driveAll]; exact actsOn_nil rfl
  | i, c :: cs, [] => by
    rw [driveAll]
    · exact actsOn_bind (actsOn_driveRest (.inl rfl) i _) fun _ => actsOn_nil rfl
    · simp
  | i, c :: cs, run :: runs => by
    rw [driveAll]
    refine actsOn_bind (actsOn_driveOne m (.inl rfl) ((driveRun_actsOn_at m V p r stack i run).mono
      fun _ ⟨j, h⟩ => .inr ⟨i, le_rfl, j, h⟩)) fun _ => actsOn_bind ?_ fun _ => actsOn_nil rfl
    exact (driveAll_actsOn_from p r stack (i + 1) cs runs).mono fun _ h =>
      h.imp_right fun ⟨i', hi, j, h⟩ => ⟨i', by omega, j, h⟩

end Loops

/-- A path below a child of `p` is not at or above `p`. -/
theorem not_prefix_of_below {p d : Path} {x : Nat × Nat} (hx : p ++ [x] <+: d) : ¬ d <+: p :=
  fun hd => by simpa using (hx.trans hd).length_le

/-! ### Callbacks kept apart -/

section Seg

/-- The actions about the resource at `q`, in order. -/
def onPath (q : Path) (acts : List (Act R)) : List (Act R) := acts.filter fun a => a.path = q

/-- No actions are about no resource. -/
@[simp] theorem onPath_nil (q : Path) : onPath q ([] : List (Act R)) = [] := rfl

/-- The actions about `q` of two lists, one after the other. -/
@[simp] theorem onPath_append (q : Path) (as bs : List (Act R)) :
    onPath q (as ++ bs) = onPath q as ++ onPath q bs := List.filter_append _ _

/-- No action is about `q` when every action is about another path. -/
theorem onPath_eq_nil {q : Path} {acts : List (Act R)} :
    onPath q acts = [] ↔ ∀ a ∈ acts, a.path ≠ q := by
  simp [onPath, List.filter_eq_nil_iff]

/-- Threads with nothing about `q` have nothing about `q` together. -/
theorem onPath_flatten_eq_nil {q : Path} {Ts : List (List (Act R))}
    (h : ∀ T ∈ Ts, onPath q (expand T) = []) : onPath q (Ts.map expand).flatten = [] := by
  simp only [onPath, List.filter_flatten, List.map_map, List.flatten_eq_nil_iff, List.mem_map]
  rintro _ ⟨T, hT, rfl⟩
  exact h T hT

/-- Two threads that, with their callbacks, act on no common resource. -/
def Apart (T T' : List (Act R)) : Prop :=
  ∀ q, onPath q (expand T) = [] ∨ onPath q (expand T') = []

/-- Being apart is symmetric. -/
theorem Apart.symm {T T' : List (Act R)} (h : Apart T T') : Apart T' T := fun q => (h q).symm

/-- Threads that act within two apart threads are apart. -/
theorem Apart.mono {T T' U U' : List (Act R)} (h : Apart T T')
    (hU : ∀ a ∈ expand U, a ∈ expand T) (hU' : ∀ a ∈ expand U', a ∈ expand T') : Apart U U' :=
  fun q => (h q).imp (fun h => onPath_eq_nil.mpr fun a ha => onPath_eq_nil.mp h a (hU a ha))
    fun h => onPath_eq_nil.mpr fun a ha => onPath_eq_nil.mp h a (hU' a ha)

/-- Threads acting on paths of two kinds that no path is of both are apart. -/
theorem apart_of_actsOn {P Q : Path → Prop} {T T' : List (Act R)} (hT : ActsOn P T)
    (hT' : ActsOn Q T') (h : ∀ q, P q → Q q → False) : Apart T T' := fun q => by
  by_cases hq : P q
  · exact .inr (onPath_eq_nil.mpr fun a ha hp => h q hq (hp ▸ hT' a ha))
  · exact .inl (onPath_eq_nil.mpr fun a ha hp => hq (hp ▸ hT a ha))

mutual
/-- `Seg acts`: each callback that `acts` dispatch acts at and below its item, what follows its
dispatch in the thread acts nowhere there, and the callback keeps its own callbacks so too. -/
def Seg : List (Act R) → Prop
  | [] => True
  | a :: as => SegOne a as ∧ Seg as

/-- One action followed by `as` in its thread: a dispatch keeps its callback apart from `as`. -/
def SegOne : Act R → List (Act R) → Prop
  | .dispatch q body, as => ActsOn (q <+: ·) body ∧ ActsOn (fun y => ¬ q <+: y) as ∧ Seg body
  | .enter _ _ _, _ => True
  | .visit _ _ _, _ => True
  | .warn _ _, _ => True
  | .drive _ _ _, _ => True
  | .childError _ _ _, _ => True
end

/-- A thread keeps its callbacks apart when both its parts do and what follows stays out of the
subtrees the first part dispatched. -/
theorem seg_append (as bs : List (Act R)) :
    Seg (as ++ bs) ↔ Seg as ∧ Seg bs ∧
      ∀ q body, .dispatch q body ∈ as → ActsOn (fun y => ¬ q <+: y) bs := by
  induction as with
  | nil => simp [Seg]
  | cons a as ih =>
    cases a with
    | dispatch q body =>
      rw [List.cons_append, Seg, SegOne, ih, Seg, SegOne, actsOn_append]
      constructor
      · rintro ⟨⟨h1, ⟨h2, h3⟩, h4⟩, h5, h6, h7⟩
        refine ⟨⟨⟨h1, h2, h4⟩, h5⟩, h6, fun q' b' hm => ?_⟩
        rcases List.mem_cons.mp hm with he | hm
        · cases he
          exact h3
        · exact h7 q' b' hm
      · rintro ⟨⟨⟨h1, h2, h4⟩, h5⟩, h6, h7⟩
        exact ⟨⟨h1, ⟨h2, h7 q body (List.mem_cons_self _ _)⟩, h4⟩, h5, h6,
          fun q' b' hm => h7 q' b' (List.mem_cons_of_mem _ hm)⟩
    | _ => simp [Seg, SegOne, ih]

/-- What an action starts keeps its callbacks apart and is apart from the rest of its thread. -/
theorem SegOne.spawned {a : Act R} {rest : List (Act R)} (h : SegOne a rest) :
    ∀ U ∈ a.spawned, Seg U ∧ Apart rest U := by
  cases a <;> simp only [Act.spawned, List.not_mem_nil, List.mem_singleton, forall_eq,
    false_imp_iff, implies_true]
  exact ⟨h.2.2, (apart_of_actsOn h.1 h.2.1 fun _ h1 h2 => h2 h1).symm⟩

/-- `SegIn Q acts`: `acts` keep their callbacks apart, and dispatch only at paths satisfying
`Q`. -/
def SegIn (Q : Path → Prop) (acts : List (Act R)) : Prop :=
  Seg acts ∧ ∀ q body, .dispatch q body ∈ acts → Q q

/-- Dispatching at paths of one kind is dispatching at paths of any larger kind. -/
theorem SegIn.mono {P Q : Path → Prop} {acts : List (Act R)} (h : SegIn P acts)
    (hPQ : ∀ q, P q → Q q) : SegIn Q acts :=
  ⟨h.1, fun q b hb => hPQ q (h.2 q b hb)⟩

/-- Actions that dispatch nothing keep their callbacks apart and dispatch nowhere. -/
theorem segIn_of_serial {Q : Path → Prop} {acts : List (Act R)} (h : Serial acts) :
    SegIn Q acts := by
  refine ⟨?_, fun q b hb => by simpa [Act.spawned] using h _ hb⟩
  induction acts with
  | nil => trivial
  | cons a as ih =>
    have ha : a.spawned = [] := h a (List.mem_cons_self a as)
    cases a <;> simp only [Act.spawned, reduceCtorEq] at ha <;>
      exact ⟨trivial, ih fun b hb => h b (List.mem_cons_of_mem _ hb)⟩

variable {α β : Type} {P Q : Path → Prop}

/-- A bind keeps its callbacks apart when its parts do and the continuation stays out of the
subtrees the first part dispatched. -/
theorem segIn_bind {x : Crawl R α} {f : α → Crawl R β} (hx : SegIn P x.acts)
    (hf : ∀ v, SegIn Q (f v).acts) (hfa : ∀ v, ActsOn (fun y => ∀ d, P d → ¬ d <+: y) (f v).acts) :
    SegIn (fun d => P d ∨ Q d) (x >>= f).acts := by
  cases h : x.res with
  | error e => rw [bind_of_error h]; exact hx.mono fun _ => .inl
  | ok v =>
    rw [bind_of_ok h]
    refine ⟨(seg_append _ _).mpr ⟨hx.1, (hf v).1, fun d b hb => (hfa v).mono fun y hy =>
      hy d (hx.2 d b hb)⟩, fun d b hb => ?_⟩
    rcases List.mem_append.mp hb with hb | hb
    · exact .inl (hx.2 d b hb)
    · exact .inr ((hf v).2 d b hb)

/-- A handled computation keeps its callbacks apart when it and its handler do and the handler
stays out of the subtrees the computation dispatched. -/
theorem segIn_handle {x : Crawl R α} {k : Exn → Crawl R α} (hx : SegIn P x.acts)
    (hk : ∀ e, SegIn Q (k e).acts) (hka : ∀ e, ActsOn (fun y => ∀ d, P d → ¬ d <+: y) (k e).acts) :
    SegIn (fun d => P d ∨ Q d) (handle x k).acts := by
  cases h : x.res with
  | ok v => rw [handle_of_ok h]; exact hx.mono fun _ => .inl
  | error e =>
    rw [handle_of_error h]
    refine ⟨(seg_append _ _).mpr ⟨hx.1, (hk e).1, fun d b hb => (hka e).mono fun y hy =>
      hy d (hx.2 d b hb)⟩, fun d b hb => ?_⟩
    rcases List.mem_append.mp hb with hb | hb
    · exact .inl (hx.2 d b hb)
    · exact .inr ((hk e).2 d b hb)

/-- A bind whose first part dispatches nothing keeps its callbacks apart when the continuation
does. -/
theorem segIn_serial_bind {x : Crawl R α} {f : α → Crawl R β} (hx : Serial x.acts)
    (hf : ∀ v, SegIn Q (f v).acts) : SegIn Q (x >>= f).acts :=
  (segIn_bind (segIn_of_serial (Q := fun _ => False) hx) hf fun _ _ _ _ h => h.elim).mono
    fun _ h => h.resolve_left id

variable (m : Methods R) (V : Visitor R)

/-- The `except` clause of the loop dispatches nothing. -/
theorem serial_iterFailure (p : Path) (r : R) (stack : List R) (e : Exn) :
    Serial (iterFailure m p r stack e).acts := by
  unfold iterFailure
  split
  · exact serial_nil rfl
  · exact serial_bind (serial_nil rfl) fun _ => serial_bind (serial_emit rfl) fun _ => serial_nil rfl

/-- The `except` clause of the loop acts on the resource. -/
theorem actsOn_iterFailure {p : Path} (hp : P p) (r : R) (stack : List R) (e : Exn) :
    ActsOn P (iterFailure m p r stack e).acts := by
  unfold iterFailure
  split
  · exact actsOn_nil rfl
  · exact actsOn_bind (actsOn_nil rfl) fun _ => actsOn_bind (actsOn_emit rfl hp) fun _ =>
      actsOn_nil rfl

/-- `try_accept` keeps its callbacks apart when its `accept` does, below the item. -/
theorem segIn_tryAccept {q : Path} (hq : ∀ d, Q d → ¬ d <+: q) (c : R) (stack : List R)
    {run : Crawl R Unit} (h : SegIn Q run.acts) : SegIn Q (tryAccept m V q c stack run).acts :=
  (segIn_handle (Q := fun _ => False) h (fun _ => segIn_of_serial (serial_bind (serial_nil rfl)
    fun _ => serial_bind (serial_nil rfl) fun _ => serial_onChildError V _ _ _)) fun _ =>
    actsOn_bind (actsOn_nil rfl) fun _ => actsOn_bind (actsOn_nil rfl) fun _ =>
      actsOn_onChildError V hq _ _).mono fun _ h => h.resolve_right id

/-- An item's `try_accept`, inline or dispatched, keeps its callbacks apart and dispatches at or
below the item. -/
theorem segIn_yieldOne {q : Path} {c : R} {stack : List R} {run : Crawl R Unit}
    (h : SegIn (fun d => ∃ x, q ++ [x] <+: d) run.acts) (ha : ActsOn (q <+: ·) run.acts) :
    SegIn (q <+: ·) (yieldOne m V q c stack run).acts := by
  have ht := segIn_tryAccept m V (fun _ ⟨_, hx⟩ => not_prefix_of_below hx) c stack h
  have hin := ht.mono fun _ ⟨x, hx⟩ => (List.prefix_append q [x]).trans hx
  unfold yieldOne dispatchCall
  split
  · split
    · refine ⟨⟨⟨actsOn_tryAccept m V (List.prefix_refl q) c stack ha, by simp [ActsOn], ht.1⟩,
        trivial⟩, ?_⟩
      simp only [emit_acts, List.mem_singleton, Act.dispatch.injEq]
      rintro _ _ ⟨rfl, rfl⟩
      exact List.prefix_refl _
    · exact hin
    · exact segIn_of_serial (serial_nil rfl)
  · exact hin

/-- Driving one iterator keeps its callbacks apart when its run does. -/
theorem segIn_driveOne {p : Path} (hp : ∀ d, Q d → ¬ d <+: p) {r : R} {stack : List R} {i : Nat}
    {cls : String} {run : Crawl R Unit} (h : SegIn Q run.acts) :
    SegIn Q (driveOne m p r stack i cls run).acts := by
  refine segIn_serial_bind (serial_emit rfl) fun _ => ?_
  refine (segIn_handle (Q := fun _ => False) ((segIn_bind (Q := fun _ => False) h
    (fun _ => segIn_of_serial (serial_nil rfl)) fun _ => actsOn_nil rfl).mono
      fun _ h => h.resolve_right id)
    (fun e => segIn_of_serial (serial_iterFailure m p r stack e))
    fun e => actsOn_iterFailure m hp r stack e).mono fun _ h => h.resolve_right id

/-- `accept` keeps its callbacks apart when its loop does. -/
theorem segIn_acceptWith {p : Path} (hp : ∀ d, Q d → ¬ d <+: p) {r : R} {stack : List R}
    {loop : Crawl R (List String)} (h : SegIn Q loop.acts) :
    SegIn Q (acceptWith m V p r stack loop).acts := by
  unfold acceptWith
  refine segIn_serial_bind (serial_emit rfl) fun _ => segIn_serial_bind (serial_nil rfl) fun _ => ?_
  split
  · exact segIn_of_serial (serial_nil rfl)
  · refine segIn_serial_bind (serial_visitCall V p r stack) fun _ =>
      (segIn_bind (Q := fun _ => False) h (fun _ => segIn_of_serial ?_) fun _ => ?_).mono
        fun _ h => h.resolve_right id
    · dsimp only
      split
      · exact serial_nil rfl
      · exact serial_bind (serial_nil rfl) fun _ => serial_onChildError V _ _ _
    · dsimp only
      split
      · exact actsOn_nil rfl
      · exact actsOn_bind (actsOn_nil rfl) fun _ => actsOn_onChildError V hp _ _

mutual
/-- `accept` at `q` keeps its callbacks apart and dispatches strictly below `q`. -/
theorem segIn_accept (q : Path) : ∀ (t : Served R) (stack : List R),
    SegIn (fun d => ∃ x, q ++ [x] <+: d) (accept m V q t stack).acts
  | .node r runs, stack => by
    rw [accept]
    exact segIn_acceptWith m V (fun _ ⟨_, hx⟩ => not_prefix_of_below hx)
      ((segIn_driveAll q r stack 0 _ runs).mono fun _ ⟨i', _, j, h⟩ => ⟨(i', j), h⟩)

/-- The loop from the `i`-th iterator on keeps its callbacks apart and dispatches below the items
of the iterators from the `i`-th on. -/
theorem segIn_driveAll (p : Path) (r : R) (stack : List R) :
    ∀ (i : Nat) (cs : List String) (runs : List (IterRun R)),
      SegIn (fun d => ∃ i' ≥ i, ∃ j, p ++ [(i', j)] <+: d) (driveAll m V p r stack i cs runs).acts
  | _, [], _ => by rw [driveAll]; exact segIn_of_serial (serial_nil rfl)
  | i, c :: cs, [] => by
    rw [driveAll]
    · exact segIn_of_serial (serial_bind (serial_driveRest p i _) fun _ => serial_nil rfl)
    · simp
  | i, c :: cs, run :: runs => by
    rw [driveAll]
    have hrest : ∀ w, SegIn (fun d => ∃ i' ≥ i + 1, ∃ j, p ++ [(i', j)] <+: d)
        (driveAll m V p r stack (i + 1) cs runs >>= fun ws => pure (w ++ ws)).acts := fun w =>
      (segIn_bind (Q := fun _ => False) (segIn_driveAll p r stack (i + 1) cs runs)
        (fun _ => segIn_of_serial (serial_nil rfl)) fun _ => actsOn_nil rfl).mono
          fun _ h => h.resolve_right id
    refine (segIn_bind (segIn_driveOne m (fun _ ⟨_, hx⟩ => not_prefix_of_below hx)
      (segIn_driveRun p r stack i run)) hrest fun _ => ?_).mono ?_
    · refine actsOn_bind ((driveAll_actsOn_from m V p r stack (i + 1) cs runs).mono ?_) fun _ =>
        actsOn_nil rfl
      rintro y (rfl | ⟨i', hi, j', hy⟩) d ⟨j, hd⟩ hdy
      · exact not_prefix_of_below hd hdy
      · have := eq_of_prefix_append_singleton (hd.trans hdy) hy
        simp only [Prod.mk.injEq] at this
        omega
    · rintro d (⟨j, hd⟩ | ⟨i', hi, j, hd⟩)
      · exact ⟨i, le_rfl, j, hd⟩
      · exact ⟨i', by omega, j, hd⟩

/-- The `i`-th iterator keeps its callbacks apart and dispatches below its items. -/
theorem segIn_driveRun (p : Path) (r : R) (stack : List R) (i : Nat) :
    ∀ run : IterRun R,
      SegIn (fun d => ∃ j, p ++ [(i, j)] <+: d) (driveRun m V p r stack i run).acts
  | .mk items raises => by
    rw [driveRun]
    refine (segIn_bind (Q := fun _ => False) (segIn_yieldAll p r stack i 0 items)
      (fun _ => segIn_of_serial ?_) fun _ => ?_).mono ?_
    · cases raises <;> exact serial_nil rfl
    · cases raises <;> exact actsOn_nil rfl
    · rintro d (⟨j, _, hd⟩ | h)
      · exact ⟨j, hd⟩
      · exact h.elim

/-- The items from the `j`-th on keep their callbacks apart and dispatch at and below those
items. -/
theorem segIn_yieldAll (p : Path) (r : R) (stack : List R) (i : Nat) :
    ∀ (j : Nat) (items : List (Served R)),
      SegIn (fun d => ∃ j' ≥ j, p ++ [(i, j')] <+: d) (yieldAll m V p r stack i j items).acts
  | _, [] => segIn_of_serial (serial_nil rfl)
  | j, c :: cs => by
    rw [yieldAll]
    refine (segIn_bind (segIn_yieldOne m V (segIn_accept (p ++ [(i, j)]) c (stack ++ [r]))
      (accept_actsOn m V _ c _)) (fun _ => segIn_yieldAll p r stack i (j + 1) cs)
      fun _ => ?_).mono ?_
    · refine (yieldAll_actsOn_from m V p r stack i (j + 1) cs).mono ?_
      rintro y ⟨j', hj, hy⟩ d hd hdy
      have := eq_of_prefix_append_singleton (hd.trans hdy) hy
      simp only [Prod.mk.injEq] at this
      omega
    · rintro d (hd | ⟨j', hj, hd⟩)
      · exact ⟨j, le_rfl, hd⟩
      · exact ⟨j', by omega, hd⟩
end

end Seg

/-! ### The pool keeps each resource in one thread -/

section Pool

/-- An action expands to itself, then the threads it starts, as two lists. -/
theorem expandOne_eq_append (a : Act R) : expandOne a = [a] ++ (a.spawned.map expand).flatten :=
  expandOne_eq a

/-- The ownership invariant of the pool: each thread keeps its callbacks apart from what follows
them, and no two threads act on a common resource. -/
def Owned (s : Pool R) : Prop := (∀ T ∈ s.threads, Seg T) ∧ s.threads.Pairwise Apart

/-- Replacing a thread of pairwise apart threads by threads apart from each other that act within
it keeps them pairwise apart. -/
theorem pairwise_apart_replace {before after Ts : List (List (Act R))} {T : List (Act R)}
    (h : (before ++ T :: after).Pairwise Apart) (hTs : Ts.Pairwise Apart)
    (hsub : ∀ U ∈ Ts, ∀ a ∈ expand U, a ∈ expand T) : (before ++ Ts ++ after).Pairwise Apart := by
  rw [List.pairwise_append, List.pairwise_cons] at h
  obtain ⟨hb, ⟨hT, ha⟩, hcross⟩ := h
  rw [List.pairwise_append, List.pairwise_append]
  refine ⟨⟨hb, hTs, fun B hB U hU => (hcross B hB T (List.mem_cons_self _ _)).mono
    (fun _ => id) (hsub U hU)⟩, ha, fun X hX A hA => ?_⟩
  rcases List.mem_append.mp hX with hX | hX
  · exact hcross X hX A (List.mem_cons_of_mem _ hA)
  · exact (hT A hA).mono (hsub X hX) fun _ => id

/-- A step of the pool keeps the ownership invariant. -/
theorem Owned.step {s s' : Pool R} (h : Owned s) (hs : Step s s') : Owned s' := by
  cases hs with
  | take before after a rest log =>
    obtain ⟨hseg, hpw⟩ := h
    obtain ⟨ha, hrest⟩ : SegOne a rest ∧ Seg rest := hseg (a :: rest) (by simp)
    have hsub : ∀ U ∈ rest :: a.spawned, ∀ b ∈ expand U, b ∈ expand (a :: rest) := by
      intro U hU b hb
      rw [expand_cons, expandOne_eq]
      rcases List.mem_cons.mp hU with rfl | hU
      · exact List.mem_append_right _ hb
      · exact List.mem_append_left _ (List.mem_cons_of_mem _
          (List.mem_flatten.mpr ⟨_, List.mem_map_of_mem _ hU, hb⟩))
    have hpair : (rest :: a.spawned).Pairwise Apart := by
      refine List.pairwise_cons.mpr ⟨fun U hU => (ha.spawned U hU).2, ?_⟩
      cases a <;> simp [Act.spawned]
    have hperm : before ++ (rest :: a.spawned) ++ after ~ before ++ rest :: after ++ a.spawned := by
      simp only [List.append_assoc, List.cons_append]
      exact List.Perm.append_left _ (List.Perm.cons _ List.perm_append_comm)
    refine ⟨fun U hU => ?_, (hperm.pairwise_iff Apart.symm).mp
      (pairwise_apart_replace hpw hpair hsub)⟩
    simp only [List.append_assoc, List.mem_append, List.mem_cons] at hU
    rcases hU with hU | (rfl | hU) | hU
    · exact hseg U (by simp [hU])
    · exact hrest
    · exact hseg U (by simp [hU])
    · exact (ha.spawned U hU).1

variable (m : Methods R) (V : Visitor R)

/-- What a pool state has taken and has still to take about each resource, callbacks run in place,
is in order what the serial crawl does about it. -/
def PathsInOrder (t : Served R) (s : Pool R) : Prop :=
  ∀ q, onPath q s.log ++ onPath q (s.threads.map expand).flatten = onPath q (crawlActs m V t)

/-- A step of an owned pool keeps the order of each resource's actions. -/
theorem PathsInOrder.step {t : Served R} {s s' : Pool R} (hown : Owned s)
    (h : PathsInOrder m V t s) (hs : Step s s') : PathsInOrder m V t s' := by
  cases hs with
  | take before after a rest log =>
    intro q
    obtain ⟨hseg, hpw⟩ := hown
    obtain ⟨hb, hpw', hcross⟩ := List.pairwise_append.mp hpw
    have hsp := (hseg (a :: rest) (by simp) : SegOne a rest ∧ Seg rest).1.spawned
    have hsplit : onPath q (expand (a :: rest)) = onPath q [a] ++
        (onPath q (a.spawned.map expand).flatten ++ onPath q (expand rest)) := by
      simp only [expand_cons, expandOne_eq_append, onPath_append, List.append_assoc]
    rw [← h q]
    simp only [List.map_append, List.map_cons, List.flatten_append, List.flatten_cons,
      onPath_append, expand_cons, expandOne_eq_append, List.append_assoc]
    congr 1
    by_cases hX : onPath q (expand (a :: rest)) = []
    · rw [hsplit] at hX
      simp only [List.append_eq_nil] at hX
      obtain ⟨ha, hS, hR⟩ := hX
      simp only [ha, hS, hR, List.nil_append, List.append_nil]
    · have hB : onPath q (before.map expand).flatten = [] :=
        onPath_flatten_eq_nil fun T hT => (hcross T hT _ (List.mem_cons_self _ _) q).resolve_right hX
      have hA : onPath q (after.map expand).flatten = [] :=
        onPath_flatten_eq_nil fun T hT => ((List.pairwise_cons.mp hpw').1 T hT q).resolve_left hX
      have hRS : onPath q (expand rest) = [] ∨ onPath q (a.spawned.map expand).flatten = [] := by
        by_cases hR : onPath q (expand rest) = []
        · exact .inl hR
        · exact .inr (onPath_flatten_eq_nil fun U hU => ((hsp U hU).2 q).resolve_left hR)
      simp only [hB, hA, List.nil_append, List.append_nil]
      rcases hRS with h1 | h1 <;> simp only [h1, List.nil_append, List.append_nil]

/-- Every reachable state is owned and keeps the order of each resource's actions. -/
theorem owned_reachable {t : Served R} {s : Pool R} (h : Reachable m V t s) :
    Owned s ∧ PathsInOrder m V t s := by
  induction h with
  | refl =>
    refine ⟨⟨by simpa [start] using (segIn_accept m V [] t []).1, by simp [start]⟩,
      fun q => by simp [start, crawlActs]⟩
  | tail _ hstep ih => exact ⟨ih.1.step hstep, ih.2.step m V ih.1 hstep⟩

/-- The action a step takes is the next action about its resource that the serial crawl takes
after those the pool has taken: the actions about one resource are taken in the serial order,
under every schedule. -/
theorem next_onPath {t : Served R} {before after : List (List (Act R))} {a : Act R}
    {rest log : List (Act R)} (hs : Reachable m V t ⟨before ++ (a :: rest) :: after, log⟩) :
    ∃ Y, onPath a.path (crawlActs m V t) = onPath a.path log ++ a :: Y := by
  obtain ⟨⟨-, hpw⟩, hpp⟩ := owned_reachable m V hs
  have hX : onPath a.path (expand (a :: rest)) =
      a :: (onPath a.path (a.spawned.map expand).flatten ++ onPath a.path (expand rest)) := by
    simp only [expand_cons, expandOne_eq_append, onPath_append, List.append_assoc]
    simp [onPath]
  have hB : onPath a.path (before.map expand).flatten = [] := onPath_flatten_eq_nil fun T hT =>
    ((List.pairwise_append.mp hpw).2.2 T hT _ (List.mem_cons_self _ _) a.path).resolve_right
      (by rw [hX]; exact List.cons_ne_nil _ _)
  refine ⟨onPath a.path (a.spawned.map expand).flatten ++ onPath a.path (expand rest) ++
    onPath a.path (after.map expand).flatten, (hpp a.path).symm.trans ?_⟩
  simp only [List.map_append, List.map_cons, List.flatten_append, List.flatten_cons, onPath_append,
    hB, List.nil_append, hX, List.cons_append, List.append_assoc]

end Pool

end InventoryCrawler
