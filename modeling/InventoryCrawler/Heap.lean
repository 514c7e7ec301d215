import InventoryCrawler.Ownership

/-!
# The resource objects the threads share

The threads of a crawl share the resource objects. `accept` stores `_stack`, `add_warning` appends
to `_warning`, `get_warning()` reads it for the report of `accept`, and
`get_full_resource_name()` reads `_stack` and the cache `_full_resource_name` of the object and of
its ancestors, and fills the caches it finds empty: a child's call, on a worker, fills its
parent's cache. The getter caches of a resource are not shared: the visit and the iterators that
call them run on the thread of the resource's own `accept`.

`Heap` holds these attributes by path, and `Heap.take` is one action of a thread on them, with what
the visitor is handed: the resource of a visit with its `_stack` and its full name, and the name
and report of an `on_child_error`. `HStep` runs the pool of `Pool.lean` on the heap.

Under every schedule, the visitor is handed at each action what the serial model hands it there
(`HeapInv.seen_eq`): each object holds the stack its `accept` stored and every warning recorded
on it (`HeapInv.objs_eq`), and each cached name is the uncached one (`HeapInv.names_sound`). This
rests on the serial order of each resource's actions (`next_onPath`) and on what each action
needs of the actions about its resource before it, which the serial crawl meets
(`needsMet_accept`). So any two finished schedules hand the visitor the same visits and reports,
each as often, and end with the same objects (`crawl_schedule_independent`).
-/

namespace InventoryCrawler

open scoped List
open Crawl

variable {R : Type}

/-! ### What an action needs of the actions before it -/

section Needs

variable (m : Methods R)

/-- What an action needs of the actions `before` it: `accept` stores the stack of a resource not
yet entered; a visit, a warning and a report are about a resource already entered, a report with
its full name; and the report of `accept` carries every warning recorded on the resource, after
those it was made with. -/
def Need (before : List (Act R)) : Act R → Prop
  | .enter p _ _ => ∀ r stack, .enter p r stack ∉ before
  | .visit p r stack => .enter p r stack ∈ before
  | .warn p _ => ∃ r stack, .enter p r stack ∈ before
  | .drive _ _ _ => True
  | .dispatch _ _ => True
  | .childError p name report => ∃ r stack, .enter p r stack ∈ before ∧
      m.fullName r stack = .ok name ∧
      ∀ text, report = .warning text → text = "\n".intercalate (m.warnings r ++ warningsAt p before)

/-- `NeedsMet seen acts`: taken after `seen`, each of `acts` has what it needs of the actions
before it. -/
def NeedsMet : List (Act R) → List (Act R) → Prop
  | _, [] => True
  | seen, a :: as => Need m seen a ∧ NeedsMet (seen ++ [a]) as

/-- Actions after actions meet their needs when the first do, and the second after them. -/
theorem needsMet_append {seen : List (Act R)} (as bs : List (Act R)) :
    NeedsMet m seen (as ++ bs) ↔ NeedsMet m seen as ∧ NeedsMet m (seen ++ as) bs := by
  induction as generalizing seen with
  | nil => simp [NeedsMet]
  | cons a as ih =>
    rw [List.cons_append, NeedsMet, NeedsMet, ih, and_assoc, List.append_assoc,
      List.singleton_append]

/-- The actions about `q` of one more action. -/
theorem onPath_cons (q : Path) (a : Act R) (as : List (Act R)) :
    onPath q (a :: as) = if a.path = q then a :: onPath q as else onPath q as := by
  by_cases h : a.path = q <;> simp [onPath, List.filter_cons, h]

/-- An action about `q` is an action whose path is `q`. -/
theorem mem_onPath {q : Path} {a : Act R} {acts : List (Act R)} :
    a ∈ onPath q acts ↔ a ∈ acts ∧ a.path = q := by
  simp [onPath]

/-- The warnings recorded at `p` are among the actions about `p`. -/
theorem warningsAt_onPath (p : Path) (acts : List (Act R)) :
    warningsAt p (onPath p acts) = warningsAt p acts := by
  induction acts with
  | nil => rfl
  | cons b acts ih =>
    rw [onPath_cons]
    split
    · rw [warningsAt_cons, warningsAt_cons, ih]
    · have hb : b.warnAt p = none := by
        cases b <;> simp_all [Act.warnAt, Act.path]
      rw [warningsAt_cons, hb, ih]
      rfl

/-- What an action needs depends only on the actions about its resource. -/
theorem Need.congr {X X' : List (Act R)} {a : Act R} (h : onPath a.path X = onPath a.path X') :
    Need m X a ↔ Need m X' a := by
  have hmem : ∀ b, b.path = a.path → (b ∈ X ↔ b ∈ X') := fun b hb => by
    simpa [mem_onPath, hb] using congrArg (b ∈ ·) h
  have hw : warningsAt a.path X = warningsAt a.path X' := by
    rw [← warningsAt_onPath, h, warningsAt_onPath]
  cases a with
  | enter p _ _ => exact forall₂_congr fun r st => not_congr (hmem _ rfl)
  | visit p r st => exact hmem _ rfl
  | warn p _ => exact exists₂_congr fun r st => hmem _ rfl
  | drive => exact Iff.rfl
  | dispatch => exact Iff.rfl
  | childError p name rep =>
    simp only [Act.path] at hw
    exact exists₂_congr fun r st => and_congr (hmem _ rfl) (by rw [hw])

/-- An action about `q` of a list is one after the actions before it, whose actions about `q` are
those before it in the list's actions about `q`. -/
theorem exists_split_of_onPath {q : Path} {a : Act R} :
    ∀ {L X Y : List (Act R)}, onPath q L = X ++ a :: Y →
      ∃ L₁ L₂, L = L₁ ++ a :: L₂ ∧ onPath q L₁ = X
  | [], X, Y, h => by cases X <;> simp at h
  | b :: L, X, Y, h => by
    rw [onPath_cons] at h
    split at h
    · cases X with
      | nil =>
        obtain ⟨rfl, -⟩ := List.cons.inj h
        exact ⟨[], L, rfl, rfl⟩
      | cons x X =>
        rw [List.cons_append] at h
        obtain ⟨hbx, h'⟩ := List.cons.inj h
        obtain ⟨L₁, L₂, rfl, hL₁⟩ := exists_split_of_onPath h'
        refine ⟨b :: L₁, L₂, rfl, ?_⟩
        rw [onPath_cons, if_pos ‹_›, hL₁, hbx]
    · obtain ⟨L₁, L₂, rfl, hL₁⟩ := exists_split_of_onPath h
      refine ⟨b :: L₁, L₂, rfl, ?_⟩
      rw [onPath_cons, if_neg ‹_›, hL₁]

/-- After actions that meet their needs and enter no resource at `p`, nothing is recorded at
`p`. -/
theorem warningsAt_of_needsMet {p : Path} :
    ∀ {seen acts : List (Act R)}, NeedsMet m seen acts →
      (∀ r stack, .enter p r stack ∉ seen ++ acts) → warningsAt p acts = []
  | _, [], _, _ => rfl
  | seen, a :: acts, ⟨ha, hrest⟩, hno => by
    have hb : a.warnAt p = none := by
      cases a with
      | warn q w =>
        simp only [Act.warnAt]
        split
        · subst q
          obtain ⟨r, stack, he⟩ := ha
          exact absurd (List.mem_append_left _ he) (hno r stack)
        · rfl
      | _ => rfl
    rw [warningsAt_cons, hb, Option.toList_none, List.nil_append]
    exact warningsAt_of_needsMet hrest fun r stack h => hno r stack (by simpa using h)

variable {α β : Type}

/-- A bind meets its needs when its first part does, and the continuation after it. -/
theorem needsMet_bind {seen : List (Act R)} {x : Crawl R α} {f : α → Crawl R β}
    (hx : NeedsMet m seen (expand x.acts))
    (hf : ∀ v, x.res = .ok v → NeedsMet m (seen ++ expand x.acts) (expand (f v).acts)) :
    NeedsMet m seen (expand (x >>= f).acts) := by
  cases h : x.res with
  | error e => rwa [bind_of_error h]
  | ok v => rw [bind_of_ok h, expand_append, needsMet_append]; exact ⟨hx, hf v h⟩

/-- A handled computation meets its needs when it does, and its handler after it. -/
theorem needsMet_handle {seen : List (Act R)} {x : Crawl R α} {k : Exn → Crawl R α}
    (hx : NeedsMet m seen (expand x.acts))
    (hk : ∀ e, x.res = .error e → NeedsMet m (seen ++ expand x.acts) (expand (k e).acts)) :
    NeedsMet m seen (expand (handle x k).acts) := by
  cases h : x.res with
  | ok v => rwa [handle_of_ok h]
  | error e => rw [handle_of_error h, expand_append, needsMet_append]; exact ⟨hx, hk e h⟩

/-- No actions need nothing. -/
theorem needsMet_nil {seen : List (Act R)} {x : Crawl R α} (h : x.acts = []) :
    NeedsMet m seen (expand x.acts) := by
  simp [h, NeedsMet]

/-- A computation that takes no action, then its continuation at the value it returns. -/
theorem needsMet_lift_bind {seen : List (Act R)} {x : Except Exn α} {f : α → Crawl R β}
    (hf : ∀ v, x = .ok v → NeedsMet m seen (expand (f v).acts)) :
    NeedsMet m seen (expand (lift x >>= f).acts) := by
  cases x with
  | ok v => rw [lift_ok_bind]; exact hf v rfl
  | error e => rw [lift_error_bind]; simp [NeedsMet]

/-- One action that starts nothing, with what it needs. -/
theorem needsMet_emit {seen : List (Act R)} {a : Act R} (hn : Need m seen a) (hs : a.spawned = []) :
    NeedsMet m seen (expand (emit a).acts) := by
  simp [expandOne_eq, hs, NeedsMet, hn]

/-- Warnings on an entered resource meet their needs. -/
theorem needsMet_warns {seen : List (Act R)} {p : Path} (he : ∃ r stack, .enter p r stack ∈ seen)
    (ws : List String) : NeedsMet m seen (ws.map (.warn p)) := by
  induction ws generalizing seen with
  | nil => trivial
  | cons w ws ih =>
    obtain ⟨r, stack, he⟩ := he
    exact ⟨⟨r, stack, he⟩, ih ⟨r, stack, List.mem_append_left _ he⟩⟩

/-! ### Nothing done yet at a resource -/

/-- Nothing has been done at or below `p` but the dispatch of its callback. -/
def Fresh (p : Path) (seen : List (Act R)) : Prop :=
  ∀ a ∈ seen, p <+: a.path → ∃ body, a = .dispatch p body

/-- The dispatch of its callback leaves a resource fresh. -/
theorem Fresh.dispatch {p : Path} {seen : List (Act R)} (h : Fresh p seen) (body : List (Act R)) :
    Fresh p (seen ++ [.dispatch p body]) := by
  intro a ha hp
  rcases List.mem_append.mp ha with ha | ha
  · exact h a ha hp
  · exact ⟨body, List.mem_singleton.mp ha⟩

/-- A fresh resource has not been entered. -/
theorem Fresh.not_enter {p : Path} {seen : List (Act R)} (h : Fresh p seen) (r : R)
    (stack : List R) : .enter p r stack ∉ seen := fun he => by
  obtain ⟨_, hb⟩ := h _ he (List.prefix_refl p)
  cases hb

/-- Nothing has been recorded on a fresh resource. -/
theorem Fresh.warningsAt {p : Path} {seen : List (Act R)} (h : Fresh p seen) :
    warningsAt p seen = [] := by
  refine List.filterMap_eq_nil_iff.mpr fun a ha => ?_
  cases a with
  | warn q w =>
    simp only [Act.warnAt]
    split
    · subst q
      obtain ⟨_, hb⟩ := h _ ha (List.prefix_refl _)
      cases hb
    · rfl
  | _ => rfl

/-- No path is below itself. -/
theorem not_below_self {p : Path} {x : Nat × Nat} : ¬ p ++ [x] <+: p :=
  fun h => not_prefix_of_below h (List.prefix_refl p)

/-- Nothing has been done below a fresh resource. -/
theorem Fresh.not_below {p : Path} {seen : List (Act R)} (h : Fresh p seen) :
    ∀ a ∈ seen, ¬ ∃ x, p ++ [x] <+: a.path := fun a ha ⟨x, hx⟩ => by
  obtain ⟨b, rfl⟩ := h a ha ((List.prefix_append p [x]).trans hx)
  exact not_prefix_of_below hx (List.prefix_refl p)

/-! ### The serial crawl meets every need -/

variable (V : Visitor R)

/-- The visit of an entered resource meets its needs. -/
theorem needsMet_visitCall {seen : List (Act R)} {p : Path} {r : R} {stack : List R}
    (he : .enter p r stack ∈ seen) : NeedsMet m seen (expand (visitCall V p r stack).acts) := by
  rw [expand_of_serial (serial_visitCall V p r stack), visitCall_acts]
  exact ⟨he, needsMet_warns m ⟨r, stack, List.mem_append_left _ he⟩ _⟩

/-- A report with what it needs meets its needs. -/
theorem needsMet_onChildError {seen : List (Act R)} {p : Path} {name : String} {report : Report}
    (hn : Need m seen (.childError p name report)) :
    NeedsMet m seen (expand (onChildError V p name report).acts) := by
  rw [expand_of_serial (serial_onChildError V p name report), onChildError_acts]
  exact ⟨hn, trivial⟩

/-- Driving the iterators that yield nothing needs nothing. -/
theorem needsMet_driveRest {seen : List (Act R)} (p : Path) (i : Nat) (cs : List String) :
    NeedsMet m seen (expand (driveRest p i cs : Crawl R Unit).acts) := by
  induction cs generalizing i seen with
  | nil => exact needsMet_nil m rfl
  | cons c cs ih => exact needsMet_bind m (needsMet_emit m trivial rfl) fun _ _ => ih (i + 1)

/-- The `except` clause of the loop on an entered resource meets its needs. -/
theorem needsMet_iterFailure {seen : List (Act R)} {p : Path} {r : R} {stack : List R}
    (he : ∃ r stack, .enter p r stack ∈ seen) (e : Exn) :
    NeedsMet m seen (expand (iterFailure m p r stack e).acts) := by
  unfold iterFailure
  split
  · exact needsMet_nil m rfl
  · exact needsMet_lift_bind m fun _ _ => needsMet_bind m (needsMet_emit m he rfl) fun _ _ =>
      needsMet_nil m rfl

/-- `try_accept` meets its needs when its `accept` does and enters the item. -/
theorem needsMet_tryAccept {seen : List (Act R)} {q : Path} {c : R} {stack : List R}
    {run : Crawl R Unit} (hrun : NeedsMet m seen (expand run.acts))
    (hfirst : .enter q c stack ∈ run.acts) :
    NeedsMet m seen (expand (tryAccept m V q c stack run).acts) :=
  needsMet_handle m hrun fun e _ => needsMet_lift_bind m fun _ _ => needsMet_lift_bind m
    fun _ hname => needsMet_onChildError m V
      ⟨c, stack, List.mem_append_right _ (mem_expand_of_mem hfirst), hname, fun _ h => by cases h⟩

/-- An item's `try_accept`, inline or dispatched, meets its needs when its `accept` does from any
fresh start. -/
theorem needsMet_yieldOne {seen : List (Act R)} {q : Path} {c : R} {stack : List R}
    {run : Crawl R Unit} (hrun : ∀ seen', Fresh q seen' → NeedsMet m seen' (expand run.acts))
    (hfirst : .enter q c stack ∈ run.acts) (hf : Fresh q seen) :
    NeedsMet m seen (expand (yieldOne m V q c stack run).acts) := by
  unfold yieldOne dispatchCall
  split
  · split
    · exact ⟨trivial, by simpa [expandOne] using
        needsMet_tryAccept m V (hrun _ (hf.dispatch _)) hfirst⟩
    · exact needsMet_tryAccept m V (hrun _ hf) hfirst
    · exact needsMet_nil m rfl
  · exact needsMet_tryAccept m V (hrun _ hf) hfirst

/-- Driving one iterator of an entered resource meets its needs when its run does. -/
theorem needsMet_driveOne {seen : List (Act R)} {p : Path} {r : R} {stack : List R} {i : Nat}
    {cls : String} {run : Crawl R Unit} (he : .enter p r stack ∈ seen)
    (hrun : NeedsMet m (seen ++ [.drive p i cls]) (expand run.acts)) :
    NeedsMet m seen (expand (driveOne m p r stack i cls run).acts) := by
  refine needsMet_bind m (needsMet_emit m trivial rfl) fun _ _ => needsMet_handle m
    (needsMet_bind m hrun fun _ _ => needsMet_nil m rfl) fun e _ => needsMet_iterFailure m
      ⟨r, stack, ?_⟩ e
  exact List.mem_append_left _ (List.mem_append_left _ he)

/-- `accept` of a fresh resource meets its needs when its loop does from the resource's visit on,
and records at the resource the warnings it returns. -/
theorem needsMet_acceptWith {seen : List (Act R)} {p : Path} {r : R} {stack : List R}
    {loop : Crawl R (List String)} (hf : Fresh p seen)
    (hloop : ∀ seen', .enter p r stack ∈ seen' → (∀ a ∈ seen', ¬ ∃ x, p ++ [x] <+: a.path) →
      NeedsMet m seen' (expand loop.acts))
    (hws : ∀ ws, loop.res = .ok ws → warningsAt p (expand loop.acts) = ws) :
    NeedsMet m seen (expand (acceptWith m V p r stack loop).acts) := by
  have he : .enter p r stack ∈ seen ++ expand (emit (Act.enter p r stack)).acts := by
    simp [expandOne]
  unfold acceptWith
  refine needsMet_bind m (needsMet_emit m hf.not_enter rfl) fun _ _ =>
    needsMet_lift_bind m fun _ _ => ?_
  split
  · exact needsMet_nil m rfl
  · refine needsMet_bind m (needsMet_visitCall m V he) fun ws hv => needsMet_bind m
      (hloop _ (List.mem_append_left _ he) ?_) fun ws' hl => ?_
    · intro a ha ⟨x, hx⟩
      rcases List.mem_append.mp ha with ha | ha
      · rcases List.mem_append.mp ha with ha | ha
        · exact hf.not_below a ha ⟨x, hx⟩
        · exact not_below_self ((actsOn_emit (a := .enter p r stack) (P := (· = p)) rfl rfl a ha) ▸ hx)
      · exact not_below_self ((actsOn_visitCall V (P := (· = p)) rfl r stack a ha) ▸ hx)
    · have hvw : warningsAt p (expand (visitCall V p r stack).acts) = ws := by
        rw [expand_of_serial (serial_visitCall V p r stack), visitCall_acts,
          (visitCall_of_ok V hv).2]
        simp [Act.warnAt]
      dsimp only
      split
      · exact needsMet_nil m rfl
      · refine needsMet_lift_bind m fun name hname => needsMet_onChildError m V
          ⟨r, stack, List.mem_append_left _ (List.mem_append_left _ he), hname, fun text ht => ?_⟩
        cases ht
        simp only [warningsAt_append, hf.warningsAt, hvw, hws ws' hl, List.append_assoc]
        simp [expandOne, Act.warnAt]

/-- `accept` enters its resource first. -/
theorem enter_mem_accept (q : Path) (t : Served R) (stack : List R) :
    .enter q t.res stack ∈ (accept m V q t stack).acts := by
  obtain ⟨r, runs⟩ := t
  rw [accept, acceptWith, bind_of_ok (emit_res _)]
  exact List.mem_append_left _ (List.mem_singleton_self _)

/-- A thread that keeps its callbacks apart runs each callback at and below its item. -/
theorem Seg.body_actsOn {acts : List (Act R)} (h : Seg acts) {q : Path} {body : List (Act R)}
    (hb : .dispatch q body ∈ acts) : ActsOn (q <+: ·) body := by
  induction acts with
  | nil => cases hb
  | cons a as ih =>
    rcases List.mem_cons.mp hb with rfl | hb
    · exact h.1.1
    · exact ih h.2 hb

/-- Running the callbacks in place records nothing at `p` when each acts elsewhere. -/
theorem warningsAt_expand {p : Path} {acts : List (Act R)}
    (h : ∀ q body, .dispatch q body ∈ acts → ActsOn (· ≠ p) body) :
    warningsAt p (expand acts) = warningsAt p acts := by
  induction acts with
  | nil => rfl
  | cons a as ih =>
    have hrest := ih fun q b hb => h q b (List.mem_cons_of_mem a hb)
    rw [expand_cons, warningsAt_append, hrest, warningsAt_cons, expandOne_eq, warningsAt_cons]
    congr 1
    cases a with
    | dispatch q body =>
      have hb := h q body (List.mem_cons_self _ _)
      refine List.filterMap_eq_nil_iff.mpr fun b hbm => ?_
      simp only [Act.spawned, List.map_cons, List.map_nil, List.flatten_cons, List.flatten_nil,
        List.append_nil] at hbm
      have := hb b hbm
      cases b <;> simp_all [Act.warnAt, Act.path]
    | _ => simp [Act.spawned]

/-- The loop records at its resource, callbacks run in place, exactly the warnings it returns. -/
theorem warningsAt_expand_driveAll {p : Path} {r : R} {stack : List R} {i : Nat}
    {cs : List String} {runs : List (IterRun R)} {ws : List String}
    (h : (driveAll m V p r stack i cs runs).res = .ok ws) :
    warningsAt p (expand (driveAll m V p r stack i cs runs).acts) = ws := by
  obtain ⟨hseg, hd⟩ := segIn_driveAll m V p r stack i cs runs
  have hb : ∀ q body, Act.dispatch q body ∈ (driveAll m V p r stack i cs runs).acts →
      ActsOn (· ≠ p) body := fun q body hb => by
    obtain ⟨i', -, j, hq⟩ := hd q body hb
    exact (hseg.body_actsOn hb).mono fun y hy hyp => not_prefix_of_below hq (hyp ▸ hy)
  rw [warningsAt_expand hb, warningsAt_driveAll m V h]

mutual
/-- `accept` of a fresh resource meets every need, and so do the callbacks it dispatches. -/
theorem needsMet_accept (p : Path) : ∀ (t : Served R) (stack : List R) (seen : List (Act R)),
    Fresh p seen → NeedsMet m seen (expand (accept m V p t stack).acts)
  | .node r runs, stack, seen, hf => by
    rw [accept]
    exact needsMet_acceptWith m V hf (fun seen' he hb => needsMet_driveAll p r stack 0 _ runs seen'
      he fun a ha i' _ j h => hb a ha ⟨(i', j), h⟩) fun _ h => warningsAt_expand_driveAll m V h

/-- The loop from the `i`-th iterator of an entered resource meets every need, when nothing has
been done below the iterators from the `i`-th on. -/
theorem needsMet_driveAll (p : Path) (r : R) (stack : List R) :
    ∀ (i : Nat) (cs : List String) (runs : List (IterRun R)) (seen : List (Act R)),
      .enter p r stack ∈ seen → (∀ a ∈ seen, ∀ i' ≥ i, ∀ j, ¬ p ++ [(i', j)] <+: a.path) →
      NeedsMet m seen (expand (driveAll m V p r stack i cs runs).acts)
  | _, [], _, _, _, _ => by rw [driveAll]; exact needsMet_nil m rfl
  | i, c :: cs, [], seen, _, _ => by
    rw [driveAll]
    · exact needsMet_bind m (needsMet_driveRest m p i _) fun _ _ => needsMet_nil m rfl
    · simp
  | i, c :: cs, run :: runs, seen, he, hb => by
    rw [driveAll]
    refine needsMet_bind m (needsMet_driveOne m he (needsMet_driveRun p r stack i run _ ?_))
      fun _ _ => needsMet_bind m (needsMet_driveAll p r stack (i + 1) cs runs _
        (List.mem_append_left _ he) ?_) fun _ _ => needsMet_nil m rfl
    · intro a ha j hj
      rcases List.mem_append.mp ha with ha | ha
      · exact hb a ha i le_rfl j hj
      · obtain rfl := List.mem_singleton.mp ha
        exact not_prefix_of_below hj (List.prefix_refl p)
    · intro a ha i' hi j hj
      rcases List.mem_append.mp ha with ha | ha
      · exact hb a ha i' (by omega) j hj
      · rcases actsOn_driveOne m (P := fun y => y = p ∨ ∃ j, p ++ [(i, j)] <+: y) (.inl rfl)
          ((driveRun_actsOn_at m V p r stack i run).mono fun _ h => .inr h) a ha with hp | ⟨j', hj'⟩
        · exact not_prefix_of_below hj (hp ▸ List.prefix_refl p)
        · have := eq_of_prefix_append_singleton hj hj'
          simp only [Prod.mk.injEq] at this
          omega

/-- The `i`-th iterator meets every need when nothing has been done below its items. -/
theorem needsMet_driveRun (p : Path) (r : R) (stack : List R) (i : Nat) :
    ∀ (run : IterRun R) (seen : List (Act R)), (∀ a ∈ seen, ∀ j, ¬ p ++ [(i, j)] <+: a.path) →
      NeedsMet m seen (expand (driveRun m V p r stack i run).acts)
  | .mk items raises, seen, hb => by
    rw [driveRun]
    refine needsMet_bind m (needsMet_yieldAll p r stack i 0 items seen fun a ha j _ => hb a ha j)
      fun _ _ => ?_
    cases raises <;> exact needsMet_nil m rfl

/-- The items from the `j`-th on meet every need when nothing has been done below them. -/
theorem needsMet_yieldAll (p : Path) (r : R) (stack : List R) (i : Nat) :
    ∀ (j : Nat) (items : List (Served R)) (seen : List (Act R)),
      (∀ a ∈ seen, ∀ j' ≥ j, ¬ p ++ [(i, j')] <+: a.path) →
      NeedsMet m seen (expand (yieldAll m V p r stack i j items).acts)
  | _, [], _, _ => needsMet_nil m rfl
  | j, c :: cs, seen, hb => by
    rw [yieldAll]
    refine needsMet_bind m (needsMet_yieldOne m V (fun seen' hf => needsMet_accept (p ++ [(i, j)])
      c (stack ++ [r]) seen' hf) (enter_mem_accept m V _ c _)
      fun a ha hp => (hb a ha j le_rfl hp).elim) fun _ _ =>
        needsMet_yieldAll p r stack i (j + 1) cs _ fun a ha j' hj' hp => ?_
    rcases List.mem_append.mp ha with ha | ha
    · exact hb a ha j' (by omega) hp
    · have := eq_of_prefix_append_singleton (actsOn_yieldOne m V (List.prefix_refl _)
        (accept_actsOn m V _ c _) a ha) hp
      simp only [Prod.mk.injEq] at this
      omega
end

end Needs

/-! ### Every schedule meets every need -/

section Schedules

variable (m : Methods R) (V : Visitor R)

/-- The serial crawl meets every need. -/
theorem needsMet_crawl (t : Served R) : NeedsMet m [] (crawlActs m V t) :=
  needsMet_accept m V [] t [] [] fun _ h => by cases h

/-- Each action a reachable state takes has what it needs in the log so far. -/
theorem need_of_step {t : Served R} {before after : List (List (Act R))} {a : Act R}
    {rest log : List (Act R)} (hs : Reachable m V t ⟨before ++ (a :: rest) :: after, log⟩) :
    Need m log a := by
  obtain ⟨Y, hY⟩ := next_onPath m V hs
  obtain ⟨L₁, L₂, hL, hL₁⟩ := exists_split_of_onPath hY
  have h := needsMet_crawl m V t
  rw [hL, needsMet_append, List.nil_append] at h
  exact (Need.congr m hL₁).mp h.2.1

/-- The log of every reachable state meets every need. -/
theorem needsMet_log {t : Served R} {s : Pool R} (hs : Reachable m V t s) : NeedsMet m [] s.log := by
  induction hs with
  | refl => trivial
  | tail hr hstep ih =>
    cases hstep with
    | take before after a rest log =>
      exact (needsMet_append m _ _).mpr ⟨ih, need_of_step m V hr, trivial⟩

end Schedules

/-! ### The shared objects -/

section Heap

/-- A resource object as the threads share it: its data, the `_stack` its `accept` stored, and its
`_warning` list. -/
structure Obj (R : Type) where
  res : R
  stack : List R
  warning : List String

/-- `get_warning()`: the warnings joined by newlines. -/
def Obj.getWarning (o : Obj R) : String := "\n".intercalate o.warning

/-- The report `on_child_error` is handed about the object: for the report of `accept`,
`get_warning()` read at the call. -/
def Obj.report (o : Obj R) : Report → Report
  | .warning _ => .warning o.getWarning
  | .exn e => .exn e

/-- The objects of a crawl by path, and the `_full_resource_name` of each. -/
structure Heap (R : Type) where
  objs : Path → Option (Obj R)
  names : Path → Option String

/-- No object yet, and no name cached. -/
def Heap.empty : Heap R := ⟨fun _ => none, fun _ => none⟩

/-- What the visitor is handed: a visited resource with its path, `_stack` and
`get_full_resource_name()`, and the name and report of an `on_child_error`. -/
inductive Seen (R : Type) where
  | visit (p : Path) (r : R) (stack : List R) (name : Except Exn String)
  | report (p : Path) (name : Except Exn String) (report : Report)

variable (m : Methods R)

/-- `get_full_resource_name()` of the object `o` at `p`, through the shared caches: what it
returns, and the heap with the names it cached. -/
def Heap.fullName (h : Heap R) (p : Path) (o : Obj R) : Except Exn String × Heap R :=
  match cachedFullNameRev m p o.res o.stack.reverse h.names with
  | .ok (v, names) => (.ok v, { h with names := names })
  | .error e => (.error e, h)

/-- One action of a thread on the shared objects, with what the visitor is handed: `accept`
stores `_stack` on the object made with its `_warning`, `add_warning` appends, a visit reads the
object and its full name, and a report reads the full name and, for `accept`'s report,
`get_warning()`. -/
def Heap.take (h : Heap R) : Act R → Option (Seen R) × Heap R
  | .enter p r stack =>
    (none, { h with objs := Function.update h.objs p (some ⟨r, stack, m.warnings r⟩) })
  | .visit p _ _ =>
    match h.objs p with
    | some o => (some (.visit p o.res o.stack (h.fullName m p o).1), (h.fullName m p o).2)
    | none => (none, h)
  | .warn p w =>
    match h.objs p with
    | some o =>
      (none, { h with objs := Function.update h.objs p (some { o with warning := o.warning ++ [w] }) })
    | none => (none, h)
  | .drive _ _ _ => (none, h)
  | .dispatch _ _ => (none, h)
  | .childError p _ report =>
    match h.objs p with
    | some o => (some (.report p (h.fullName m p o).1 (o.report report)), (h.fullName m p o).2)
    | none => (none, h)

/-- What the serial model hands the visitor at an action: a visited resource with its uncached
full name, and a report as its thread computed it. -/
def Act.seen : Act R → Option (Seen R)
  | .visit p r stack => some (.visit p r stack (m.fullName r stack))
  | .childError p name report => some (.report p (.ok name) report)
  | _ => none

/-- A state of a crawl on the shared objects: the pool, the heap, and what the visitor has been
handed, in order. -/
structure Run (R : Type) where
  pool : Pool R
  heap : Heap R
  seen : List (Seen R)

/-- One step: some thread takes its next action, on the heap. -/
inductive HStep : Run R → Run R → Prop
  | take (before after : List (List (Act R))) (a : Act R) (rest log : List (Act R)) (h : Heap R)
      (seen : List (Seen R)) :
      HStep ⟨⟨before ++ (a :: rest) :: after, log⟩, h, seen⟩
        ⟨⟨before ++ rest :: after ++ a.spawned, log ++ [a]⟩, (h.take m a).2,
          seen ++ (h.take m a).1.toList⟩

/-- The states a crawl of `t` reaches on the shared objects, under any schedule. -/
def HReachable (V : Visitor R) (t : Served R) (x : Run R) : Prop :=
  Relation.ReflTransGen (HStep m) ⟨start m V t, Heap.empty, []⟩ x

/-- A step on the heap is a step of the pool. -/
theorem HStep.pool {x y : Run R} (h : HStep m x y) : Step x.pool y.pool := by
  cases h
  exact .take _ _ _ _ _

/-- Each step of the pool is a step on the heap, from any heap. -/
theorem exists_hStep {s s' : Pool R} (h : Step s s') (hp : Heap R) (seen : List (Seen R)) :
    ∃ y, HStep m ⟨s, hp, seen⟩ y ∧ y.pool = s' := by
  cases h with
  | take before after a rest log => exact ⟨_, .take before after a rest log hp seen, rfl⟩

/-- Each run of the pool is a run on the heap. -/
theorem exists_hRun {s s' : Pool R} (h : Relation.ReflTransGen Step s s') (x : Run R)
    (hx : x.pool = s) : ∃ y, Relation.ReflTransGen (HStep m) x y ∧ y.pool = s' := by
  induction h with
  | refl => exact ⟨x, .refl, hx⟩
  | tail _ hstep ih =>
    obtain ⟨y, hy, rfl⟩ := ih
    obtain ⟨z, hz, hzp⟩ := exists_hStep m hstep y.heap y.seen
    exact ⟨z, hy.tail hz, hzp⟩

/-- A state reachable on the heap is reachable in the pool. -/
theorem HReachable.pool {V : Visitor R} {t : Served R} {x : Run R} (h : HReachable m V t x) :
    Reachable m V t x.pool := by
  induction h with
  | refl => exact .refl
  | tail _ hstep ih => exact ih.tail (hstep.pool m)

/-- `get_full_resource_name()` through a sound cache returns the uncached full name, keeps the
cache sound, and changes no object. -/
theorem Heap.fullName_spec {t : Served R} {h : Heap R} (hc : CacheSound m t h.names) {p : Path}
    {o : Obj R} (hy : t.YieldPath p (o.stack ++ [o.res])) :
    (h.fullName m p o).1 = m.fullName o.res o.stack ∧ CacheSound m t (h.fullName m p o).2.names ∧
      (h.fullName m p o).2.objs = h.objs := by
  have hs := cachedFullNameRev_spec m p o.res o.stack.reverse h.names hc (by simpa using hy)
  unfold Heap.fullName
  revert hs
  cases cachedFullNameRev m p o.res o.stack.reverse h.names with
  | ok res =>
    obtain ⟨v, names⟩ := res
    rintro ⟨hv, hc'⟩
    exact ⟨by simp [Methods.fullName, hv], hc', rfl⟩
  | error e =>
    intro he
    exact ⟨by simp [Methods.fullName, he], hc, rfl⟩

/-- The heap invariant after the actions `log`: the visitor has been handed what the serial model
hands it, each entered object holds the stack its `accept` stored and every warning recorded on
it, no other object exists, and every cached name is the uncached one. -/
structure HeapInv (t : Served R) (log : List (Act R)) (h : Heap R) (seen : List (Seen R)) :
    Prop where
  seen_eq : seen = log.filterMap (Act.seen m)
  objs_eq : ∀ p r stack, .enter p r stack ∈ log →
    h.objs p = some ⟨r, stack, m.warnings r ++ warningsAt p log⟩
  objs_none : ∀ p, (∀ r stack, .enter p r stack ∉ log) → h.objs p = none
  names_sound : CacheSound m t h.names

/-- An action that enters and warns nothing keeps the heap invariant when it leaves the objects
alone, keeps the cache sound, and hands the visitor what the serial model hands it. -/
theorem HeapInv.of_quiet {t : Served R} {log : List (Act R)} {h h' : Heap R}
    {seen : List (Seen R)} {a : Act R} (hi : HeapInv m t log h seen)
    (hen : ∀ p r stack, Act.enter p r stack ≠ a) (hw : ∀ q, a.warnAt q = none)
    (hobjs : h'.objs = h.objs) (hc : CacheSound m t h'.names) :
    HeapInv m t (log ++ [a]) h' (seen ++ (a.seen m).toList) where
  seen_eq := by
    rw [hi.seen_eq, List.filterMap_append]
    cases h : a.seen m <;> simp [h]
  objs_eq q r st he := by
    rw [hobjs, hi.objs_eq q r st (by simpa [hen] using he)]
    simp [warningsAt, hw]
  objs_none q hq := hobjs ▸ hi.objs_none q fun r st h => hq r st (List.mem_append_left _ h)
  names_sound := hc

/-- One action with what it needs keeps the heap invariant. -/
theorem HeapInv.take {t : Served R} {log : List (Act R)} {h : Heap R} {seen : List (Seen R)}
    {a : Act R} (hi : HeapInv m t log h seen) (hn : NeedsMet m [] (log ++ [a]))
    (hy : ∀ p r stack, .enter p r stack ∈ log ++ [a] → t.YieldPath p (stack ++ [r])) :
    HeapInv m t (log ++ [a]) (h.take m a).2 (seen ++ (h.take m a).1.toList) := by
  obtain ⟨hlog, ha, -⟩ := (needsMet_append m log [a]).mp (by simpa using hn)
  simp only [List.nil_append] at ha
  cases a with
  | enter p r stack =>
    have hw : warningsAt p log = [] :=
      warningsAt_of_needsMet m hlog fun r' st' h => ha r' st' (by simpa using h)
    refine ⟨by simp [Heap.take, Act.seen, hi.seen_eq], fun q r' st' he => ?_, fun q hq => ?_,
      hi.names_sound⟩
    · rcases List.mem_append.mp he with he | he
      · have hq : q ≠ p := fun hq => ha r' st' (hq ▸ he)
        simp [Heap.take, Function.update_noteq hq, hi.objs_eq q r' st' he, Act.warnAt]
      · obtain ⟨rfl, rfl, rfl⟩ : q = p ∧ r' = r ∧ st' = stack := by simpa using he
        simp [Heap.take, hw, Act.warnAt]
    · have hq' : q ≠ p := fun hq' => hq r stack (by simp [hq'])
      simpa [Heap.take, Function.update_noteq hq'] using hi.objs_none q fun r' st' h =>
        hq r' st' (List.mem_append_left _ h)
  | visit p r stack =>
    obtain ⟨hname, hc, hobjs⟩ := Heap.fullName_spec m hi.names_sound (p := p)
      (o := ⟨r, stack, m.warnings r ++ warningsAt p log⟩) (hy p r stack (List.mem_append_left _ ha))
    simpa [Heap.take, hi.objs_eq p r stack ha, Act.seen, hname] using
      hi.of_quiet m (a := .visit p r stack) (by simp) (fun _ => rfl) hobjs hc
  | warn p w =>
    obtain ⟨r, stack, he⟩ := ha
    have ho := hi.objs_eq p r stack he
    simp only [Heap.take, ho]
    refine ⟨by simp [hi.seen_eq, Act.seen], fun q r' st' he' => ?_, fun q hq => ?_,
      hi.names_sound⟩
    · have hel : .enter q r' st' ∈ log := by simpa using he'
      by_cases hq : q = p
      · subst hq
        have h2 := hi.objs_eq q r' st' hel
        rw [ho] at h2
        simp only [Option.some.injEq, Obj.mk.injEq] at h2
        obtain ⟨rfl, rfl, -⟩ := h2
        simp [Act.warnAt]
      · simp [Function.update_noteq hq, hi.objs_eq q r' st' hel, Act.warnAt, Ne.symm hq]
    · have hq' : q ≠ p := fun hq' => hq r stack (by simp [hq', he])
      simpa [Function.update_noteq hq'] using hi.objs_none q fun r' st' h =>
        hq r' st' (List.mem_append_left _ h)
  | drive p i cls => exact hi.of_quiet m (by simp) (fun _ => rfl) rfl hi.names_sound
  | dispatch p body => exact hi.of_quiet m (by simp) (fun _ => rfl) rfl hi.names_sound
  | childError p name report =>
    obtain ⟨r, stack, he, hname, htext⟩ := ha
    obtain ⟨hname', hc, hobjs⟩ := Heap.fullName_spec m hi.names_sound (p := p)
      (o := ⟨r, stack, m.warnings r ++ warningsAt p log⟩) (hy p r stack (List.mem_append_left _ he))
    have hrep : Obj.report ⟨r, stack, m.warnings r ++ warningsAt p log⟩ report = report := by
      cases report with
      | warning text => simp [Obj.report, Obj.getWarning, htext text rfl]
      | exn e => rfl
    simpa [Heap.take, hi.objs_eq p r stack he, Act.seen, hname', hname, hrep] using
      hi.of_quiet m (a := .childError p name report) (by simp) (fun _ => rfl) hobjs hc

variable (V : Visitor R)

/-- Every state reachable on the heap, under any schedule, keeps the heap invariant. -/
theorem heapInv_reachable {t : Served R} {x : Run R} (hx : HReachable m V t x) :
    HeapInv m t x.pool.log x.heap x.seen := by
  induction hx with
  | refl => exact ⟨rfl, by simp [start], fun _ _ => rfl, cacheSound_empty m t⟩
  | tail hr hstep ih =>
    cases hstep with
    | take before after a rest log h seen =>
      have hr' : Reachable m V t ⟨before ++ rest :: after ++ a.spawned, log ++ [a]⟩ :=
        (HReachable.pool m hr).tail (.take before after a rest log)
      exact ih.take m (needsMet_log m V hr') fun p r stack he => (enter_stack m V hr' he).1

end Heap

/-! ### Schedules agree -/

section Agree

variable (m : Methods R) (V : Visitor R)

/-- Under any two schedules that run every thread to its end, the visitor is handed the same
visits, each with its resource, stack and full name, and the same reports, each as often, which
are what the serial crawl hands it; the objects end the same, each with the stack its `accept`
stored and the same warnings in the same order; and every full name cached is the uncached one. -/
theorem crawl_schedule_independent (t : Served R) {x₁ x₂ : Run R} (h₁ : HReachable m V t x₁)
    (hd₁ : x₁.pool.Done) (h₂ : HReachable m V t x₂) (hd₂ : x₂.pool.Done) :
    x₁.seen ~ x₂.seen ∧ x₁.seen ~ (crawlActs m V t).filterMap (Act.seen m) ∧
      x₁.heap.objs = x₂.heap.objs ∧ CacheSound m t x₁.heap.names ∧ CacheSound m t x₂.heap.names := by
  have hi₁ := heapInv_reachable m V h₁
  have hi₂ := heapInv_reachable m V h₂
  have hp₁ := done_log_perm m V (h₁.pool m) hd₁
  have hp₂ := done_log_perm m V (h₂.pool m) hd₂
  have hs₁ : x₁.seen ~ (crawlActs m V t).filterMap (Act.seen m) := hi₁.seen_eq ▸ hp₁.filterMap _
  have hs₂ : x₂.seen ~ (crawlActs m V t).filterMap (Act.seen m) := hi₂.seen_eq ▸ hp₂.filterMap _
  refine ⟨hs₁.trans hs₂.symm, hs₁, funext fun p => ?_, hi₁.names_sound, hi₂.names_sound⟩
  have hw : warningsAt p x₁.pool.log = warningsAt p x₂.pool.log := by
    rw [← warningsAt_onPath, ← warningsAt_onPath p x₂.pool.log]
    congr 1
    have h₁' := (owned_reachable m V (h₁.pool m)).2 p
    have h₂' := (owned_reachable m V (h₂.pool m)).2 p
    simp only [Pool.Done] at hd₁ hd₂
    rw [onPath_flatten_eq_nil fun T hT => by simp [hd₁ T hT], List.append_nil] at h₁'
    rw [onPath_flatten_eq_nil fun T hT => by simp [hd₂ T hT], List.append_nil] at h₂'
    rw [h₁', h₂']
  by_cases he : ∃ r stack, .enter p r stack ∈ x₁.pool.log
  · obtain ⟨r, stack, he⟩ := he
    rw [hi₁.objs_eq p r stack he, hi₂.objs_eq p r stack ((hp₁.trans hp₂.symm).subset he), hw]
  · push_neg at he
    rw [hi₁.objs_none p he, hi₂.objs_none p fun r stack h => he r stack
      ((hp₂.trans hp₁.symm).subset h)]

/-! ### Two schedules of the sample crawl -/

/-- Steps only add to the log. -/
theorem log_prefix_of_run {s s' : Pool R} (h : Relation.ReflTransGen Step s s') :
    s.log <+: s'.log := by
  induction h with
  | refl => exact List.prefix_refl _
  | tail _ hstep ih =>
    cases hstep
    exact ih.trans (List.prefix_append _ _)

/-- A lone thread takes, one by one, the actions it has before any dispatch. -/
theorem run_serial_start (rest : List (Act R)) : ∀ (L log : List (Act R)), Serial L →
    Relation.ReflTransGen Step ⟨[L ++ rest], log⟩ ⟨[rest], log ++ L⟩
  | [], log, _ => by simpa using Relation.ReflTransGen.refl
  | a :: L, log, h => by
    have ha : a.spawned = [] := h a (List.mem_cons_self a L)
    have hstep : Step ⟨[(a :: L) ++ rest], log⟩ ⟨[L ++ rest], log ++ [a]⟩ := by
      simpa [ha] using Step.take [] [] a (L ++ rest) log
    simpa using Relation.ReflTransGen.head hstep
      (run_serial_start rest L (log ++ [a]) fun b hb => h b (List.mem_cons_of_mem a hb))

/-- From two threads whose next actions differ, two schedules that run every thread to its end
log differently. -/
theorem exists_done_logs_ne (a b : Act R) (ra rb log : List (Act R)) (hab : a ≠ b) :
    ∃ s₁ s₂, Relation.ReflTransGen Step ⟨[a :: ra, b :: rb], log⟩ s₁ ∧ s₁.Done ∧
      Relation.ReflTransGen Step ⟨[a :: ra, b :: rb], log⟩ s₂ ∧ s₂.Done ∧ s₁.log ≠ s₂.log := by
  have h₁ : Step ⟨[a :: ra, b :: rb], log⟩ ⟨[ra, b :: rb] ++ a.spawned, log ++ [a]⟩ :=
    Step.take [] [b :: rb] a ra log
  have h₂ : Step ⟨[a :: ra, b :: rb], log⟩ ⟨[a :: ra, rb] ++ b.spawned, log ++ [b]⟩ :=
    Step.take [a :: ra] [] b rb log
  obtain ⟨s₁, hs₁, hd₁⟩ := exists_done ⟨[ra, b :: rb] ++ a.spawned, log ++ [a]⟩
  obtain ⟨s₂, hs₂, hd₂⟩ := exists_done ⟨[a :: ra, rb] ++ b.spawned, log ++ [b]⟩
  refine ⟨s₁, s₂, .head h₁ hs₁, hd₁, .head h₂ hs₂, hd₂, fun heq => hab ?_⟩
  have hp := List.prefix_of_prefix_length_le (log_prefix_of_run hs₁)
    (heq ▸ log_prefix_of_run hs₂) (by simp)
  simpa using hp.eq_of_length (by simp)

/-- The thread of the sample crawl: it enters and visits the organization, makes and drives its
first nine iterators, dispatches the project that the ninth yields, and makes and drives the
tenth. -/
theorem sampleTree_acts :
    (accept (resourceMethods sampleExternals) sampleVisitor [] sampleTree []).acts =
      ([.enter [] sampleOrg [], .visit [] sampleOrg []] ++ (List.range 9).map fun i =>
        .drive [] i (((resourceMethods sampleExternals).contains sampleOrg).getD i "")) ++
      .dispatch [(8, 0)] (tryAccept (resourceMethods sampleExternals) sampleVisitor [(8, 0)]
          sampleTreeProject [sampleOrg] (accept (resourceMethods sampleExternals) sampleVisitor
            [(8, 0)] (.node sampleTreeProject []) [sampleOrg])).acts ::
        [.drive [] 9 (((resourceMethods sampleExternals).contains sampleOrg).getD 9 "")] := rfl

/-- The sample project's callback enters the project first. -/
theorem sampleProject_enters_first : ∃ body, (tryAccept (resourceMethods sampleExternals) sampleVisitor [(8, 0)]
          sampleTreeProject [sampleOrg] (accept (resourceMethods sampleExternals) sampleVisitor
            [(8, 0)] (.node sampleTreeProject []) [sampleOrg])).acts = .enter [(8, 0)] sampleTreeProject [sampleOrg] :: body := ⟨_, rfl⟩

/-- Two schedules of the sample crawl differ: after the project's dispatch, one drives the
organization's tenth iterator first and the other enters the project first. Both end with the
same visits, reports and objects. -/
theorem crawl_schedule_independent_sample :
    let m := resourceMethods sampleExternals
    ∃ x₁ x₂, HReachable m sampleVisitor sampleTree x₁ ∧ x₁.pool.Done ∧
      HReachable m sampleVisitor sampleTree x₂ ∧ x₂.pool.Done ∧ x₁.pool.log ≠ x₂.pool.log ∧
      (x₁.seen ~ x₂.seen ∧ x₁.seen ~ (crawlActs m sampleVisitor sampleTree).filterMap (Act.seen m) ∧
        x₁.heap.objs = x₂.heap.objs ∧ CacheSound m sampleTree x₁.heap.names ∧
        CacheSound m sampleTree x₂.heap.names) := by
  intro m
  obtain ⟨body, hbody⟩ := sampleProject_enters_first
  have hmid : Reachable m sampleVisitor sampleTree
      ⟨[[.drive [] 9 ((m.contains sampleOrg).getD 9 "")], .enter [(8, 0)] sampleTreeProject [sampleOrg] :: body],
        ([.enter [] sampleOrg [], .visit [] sampleOrg []] ++ (List.range 9).map fun i =>
          .drive [] i ((m.contains sampleOrg).getD i "")) ++ [.dispatch [(8, 0)] (.enter [(8, 0)] sampleTreeProject [sampleOrg] :: body)]⟩ := by
    unfold Reachable start
    rw [sampleTree_acts, hbody]
    refine (run_serial_start _ _ [] (by simp [Serial, Act.spawned])).trans (.single ?_)
    exact Step.take [] [] _ _ _
  obtain ⟨s₁, s₂, hs₁, hd₁, hs₂, hd₂, hne⟩ := exists_done_logs_ne
    (.drive [] 9 ((m.contains sampleOrg).getD 9 "")) (.enter [(8, 0)] sampleTreeProject [sampleOrg])
    [] body _ (by intro h; cases h)
  obtain ⟨x₁, hx₁, rfl⟩ := exists_hRun m (hmid.trans hs₁) ⟨start m sampleVisitor sampleTree, Heap.empty, []⟩ rfl
  obtain ⟨x₂, hx₂, rfl⟩ := exists_hRun m (hmid.trans hs₂) ⟨start m sampleVisitor sampleTree, Heap.empty, []⟩ rfl
  exact ⟨x₁, x₂, hx₁, hd₁, hx₂, hd₂, hne, crawl_schedule_independent m sampleVisitor sampleTree hx₁ hd₁ hx₂ hd₂⟩
end Agree

end InventoryCrawler
