import InventoryCrawler.Stack

/-!
# Iterator failures and warnings

The loop of `accept` over `self._contains` catches what each iterator raises, from the API call,
from the iterator's body, from `dispatch`, or out of a child's `try_accept`. Once `repr(self)`
computes, the loop has a closed form (`driveAll_of_repr`): every class of the list is made and
driven, in order, whatever the ones before it raised, and an iterator that raised anything but a
benign `ApiExecutionError` adds exactly one warning, which contains `repr(self)`. In a crawl from
a root, `repr(self)` computes for every visited resource with iterators (`repr_ok_of_visit`), which
gives `crawl_loop_drives_every_iterator`.

A thread of `accept` acts only on its resource and the resources below it (`accept_actsOn`), so the
warnings recorded on a resource, its `add_warning` calls (`warningsAt`), are those of its own
`accept`: the ones its visit records, then the loop's failure warnings, which the loop also returns
(`warningsAt_driveAll`). They are flushed to `on_child_error` at the end of `accept`: when `accept`
returns, all of them arrive, after those the resource was made with, with its full name
(`accept_flushes_warnings`). When `accept` ends by an exception there is no flush: a warning
recorded while `visit` ran, before `visit` raised, never reaches the visitor
(`visit_warning_lost`).
-/

namespace InventoryCrawler

open Crawl

variable {R : Type}

/-! ### The resources a thread acts on -/

section Paths

variable {α β : Type} {P : Path → Prop}

/-- The path of the resource an action is about. -/
def Act.path : Act R → Path
  | .enter p _ _ | .visit p _ _ | .warn p _ | .drive p _ _ | .dispatch p _ | .childError p _ _ => p

/-- The warning an action records on the resource at `p`, if it is one. -/
def Act.warnAt (p : Path) : Act R → Option String
  | .warn q w => if q = p then some w else none
  | _ => none

/-- The warnings that some actions record on the resource at `p`, in order: its `add_warning`
calls. -/
def warningsAt (p : Path) (acts : List (Act R)) : List String := acts.filterMap (Act.warnAt p)

/-- No actions record no warning. -/
@[simp] theorem warningsAt_nil (p : Path) : warningsAt p ([] : List (Act R)) = [] := rfl

/-- The warnings recorded by two lists of actions, one after the other. -/
@[simp] theorem warningsAt_append (p : Path) (as bs : List (Act R)) :
    warningsAt p (as ++ bs) = warningsAt p as ++ warningsAt p bs := List.filterMap_append _ _ _

/-- The warnings recorded by one more action. -/
@[simp] theorem warningsAt_cons (p : Path) (a : Act R) (as : List (Act R)) :
    warningsAt p (a :: as) = (a.warnAt p).toList ++ warningsAt p as := by
  cases h : a.warnAt p <;> simp [warningsAt, List.filterMap_cons, h]

/-- The warnings recorded at `p` by warnings recorded at `p`. -/
@[simp] theorem warningsAt_map_warn (p : Path) (ws : List String) :
    warningsAt p (ws.map (Act.warn (R := R) p)) = ws := by
  induction ws with
  | nil => rfl
  | cons w ws ih => simp [Act.warnAt, ih]

/-- An action of a thread is an action of its expansion. -/
theorem mem_expand_of_mem {a : Act R} {acts : List (Act R)} (h : a ∈ acts) : a ∈ expand acts := by
  induction acts with
  | nil => cases h
  | cons b bs ih =>
    rcases List.mem_cons.mp h with rfl | h
    · simp [expandOne_eq]
    · simp [ih h]

/-- `ActsOn P acts`: every action of `acts`, and of the callbacks they dispatch, is about a
resource whose path satisfies `P`. -/
def ActsOn (P : Path → Prop) (acts : List (Act R)) : Prop := ∀ a ∈ expand acts, P a.path

/-- Acting on paths of a kind acts on paths of any larger kind. -/
theorem ActsOn.mono {Q : Path → Prop} {acts : List (Act R)} (h : ActsOn P acts)
    (hPQ : ∀ q, P q → Q q) : ActsOn Q acts := fun a ha => hPQ _ (h a ha)

/-- Actions below `p ++ [x]` record no warning at `p`. -/
theorem warningsAt_of_actsOn {p : Path} {acts : List (Act R)}
    (h : ActsOn (fun q => ∃ x, p ++ [x] <+: q) acts) : warningsAt p acts = [] := by
  refine List.filterMap_eq_nil_iff.mpr fun a ha => ?_
  obtain ⟨x, hx⟩ := h a (mem_expand_of_mem ha)
  cases a <;> simp only [Act.warnAt]
  rename_i q w
  have := hx.length_le
  simp only [Act.path, List.length_append, List.length_singleton] at this
  simp only [ite_eq_right_iff, reduceCtorEq, imp_false]
  rintro rfl
  omega

/-- Two lists of actions act on the paths that both act on. -/
theorem actsOn_append {as bs : List (Act R)} : ActsOn P (as ++ bs) ↔ ActsOn P as ∧ ActsOn P bs := by
  simp [ActsOn, or_imp, forall_and]

/-- Actions that dispatch nothing act on the paths of their own. -/
theorem actsOn_of_serial {acts : List (Act R)} (hs : Serial acts) (h : ∀ a ∈ acts, P a.path) :
    ActsOn P acts := by
  rwa [ActsOn, expand_of_serial hs]

/-- No actions act on any paths. -/
theorem actsOn_nil {x : Crawl R α} (h : x.acts = []) : ActsOn P x.acts := by
  simp [ActsOn, h]

/-- One action that spawns nothing acts on its own path. -/
theorem actsOn_emit {a : Act R} (hs : a.spawned = []) (ha : P a.path) : ActsOn P (emit a).acts :=
  actsOn_of_serial (by simpa [Serial] using hs) (by simpa using ha)

/-- A bind acts where its parts act. -/
theorem actsOn_bind {x : Crawl R α} {f : α → Crawl R β} (hx : ActsOn P x.acts)
    (hf : ∀ v, ActsOn P (f v).acts) : ActsOn P (x >>= f).acts := by
  cases h : x.res with
  | error e => rwa [bind_of_error h]
  | ok v => rw [bind_of_ok h]; exact actsOn_append.mpr ⟨hx, hf v⟩

/-- A handled computation acts where it and its handler act. -/
theorem actsOn_handle {x : Crawl R α} {k : Exn → Crawl R α} (hx : ActsOn P x.acts)
    (hk : ∀ e, ActsOn P (k e).acts) : ActsOn P (handle x k).acts := by
  cases h : x.res with
  | ok v => rwa [handle_of_ok h]
  | error e => rw [handle_of_error h]; exact actsOn_append.mpr ⟨hx, hk e⟩

variable (m : Methods R) (V : Visitor R)

/-- `visitor.visit(self)` is the visit and the warnings it records, whether it raises or not. -/
@[simp] theorem visitCall_acts (p : Path) (r : R) (stack : List R) :
    (visitCall V p r stack).acts = .visit p r stack :: (V.visit r).1.map (.warn p) := by
  unfold visitCall
  cases h : (V.visit r).2 <;> simp [bind_of_ok, warnAll, h]

/-- `visitor.on_child_error(name, report)` is the call, whether it raises or not. -/
@[simp] theorem onChildError_acts (p : Path) (name : String) (report : Report) :
    (onChildError V p name report).acts = [.childError p name report] := by
  unfold onChildError
  cases V.onChildError name report <;> rfl

/-- A visit acts on the path of the resource. -/
theorem actsOn_visitCall {p : Path} (hp : P p) (r : R) (stack : List R) :
    ActsOn P (visitCall V p r stack).acts :=
  actsOn_of_serial (serial_visitCall V p r stack) (by simp [Act.path, hp])

/-- A report acts on the path of the resource. -/
theorem actsOn_onChildError {p : Path} (hp : P p) (name : String) (report : Report) :
    ActsOn P (onChildError V p name report).acts :=
  actsOn_of_serial (serial_onChildError V p name report) (by simp [Act.path, hp])

/-- Driving the iterators that yield nothing acts on the resource's path. -/
theorem actsOn_driveRest {p : Path} (hp : P p) (i : Nat) (cs : List String) :
    ActsOn P (driveRest p i cs : Crawl R Unit).acts := by
  induction cs generalizing i with
  | nil => exact actsOn_nil rfl
  | cons c cs ih => exact actsOn_bind (actsOn_emit rfl hp) fun _ => ih (i + 1)

/-- `try_accept` acts where its `accept` acts and on its own path. -/
theorem actsOn_tryAccept {q : Path} (hq : P q) (c : R) (stack : List R) {run : Crawl R Unit}
    (h : ActsOn P run.acts) : ActsOn P (tryAccept m V q c stack run).acts :=
  actsOn_handle h fun _ => actsOn_bind (actsOn_nil rfl) fun _ => actsOn_bind (actsOn_nil rfl)
    fun _ => actsOn_onChildError V hq _ _

/-- An item, inline or dispatched, acts where its `try_accept` acts and on its own path. -/
theorem actsOn_yieldOne {q : Path} (hq : P q) {c : R} {stack : List R} {run : Crawl R Unit}
    (h : ActsOn P run.acts) : ActsOn P (yieldOne m V q c stack run).acts := by
  have ht := actsOn_tryAccept m V hq c stack h
  unfold yieldOne dispatchCall
  split
  · split
    · simpa [ActsOn, expandOne, Act.path, hq] using ht
    · exact ht
    · exact actsOn_nil rfl
  · exact ht

/-- Driving one iterator acts where its run acts and on the resource's path. -/
theorem actsOn_driveOne {p : Path} (hp : P p) {r : R} {stack : List R} {i : Nat} {cls : String}
    {run : Crawl R Unit} (h : ActsOn P run.acts) : ActsOn P (driveOne m p r stack i cls run).acts := by
  refine actsOn_bind (actsOn_emit rfl hp) fun _ =>
    actsOn_handle (actsOn_bind h fun _ => actsOn_nil rfl) fun e => ?_
  unfold iterFailure
  split
  · exact actsOn_nil rfl
  · exact actsOn_bind (actsOn_nil rfl) fun _ => actsOn_bind (actsOn_emit rfl hp) fun _ =>
      actsOn_nil rfl

/-- `accept` acts where its loop acts and on the resource's path. -/
theorem actsOn_acceptWith {p : Path} (hp : P p) {r : R} {stack : List R}
    {loop : Crawl R (List String)} (h : ActsOn P loop.acts) :
    ActsOn P (acceptWith m V p r stack loop).acts := by
  unfold acceptWith
  refine actsOn_bind (actsOn_emit rfl hp) fun _ => actsOn_bind (actsOn_nil rfl) fun _ => ?_
  split
  · exact actsOn_nil rfl
  · refine actsOn_bind (actsOn_visitCall V hp r stack) fun _ => actsOn_bind h fun _ => ?_
    dsimp only
    split
    · exact actsOn_nil rfl
    · exact actsOn_bind (actsOn_nil rfl) fun _ => actsOn_onChildError V hp _ _

mutual
/-- `accept` at `q` acts on `q` and the resources below it, and so do the callbacks it
dispatches. -/
theorem accept_actsOn (q : Path) : ∀ (t : Served R) (stack : List R),
    ActsOn (q <+: ·) (accept m V q t stack).acts
  | .node r runs, stack => by
    rw [accept]
    exact actsOn_acceptWith m V (List.prefix_refl q) (driveAll_actsOn q r stack 0 _ runs)

/-- The loop over the iterators of the resource at `p` acts on `p` and below. -/
theorem driveAll_actsOn (p : Path) (r : R) (stack : List R) :
    ∀ (i : Nat) (cs : List String) (runs : List (IterRun R)),
      ActsOn (p <+: ·) (driveAll m V p r stack i cs runs).acts
  | _, [], _ => by rw [driveAll]; exact actsOn_nil rfl
  | i, c :: cs, [] => by
    rw [driveAll]
    · exact actsOn_bind (actsOn_driveRest (List.prefix_refl p) i _) fun _ => actsOn_nil rfl
    · simp
  | i, c :: cs, run :: runs => by
    rw [driveAll]
    exact actsOn_bind (actsOn_driveOne m (List.prefix_refl p)
      ((driveRun_actsOn p r stack i run).mono fun _ ⟨_, h⟩ => (List.prefix_append p _).trans h))
      fun _ => actsOn_bind (driveAll_actsOn p r stack (i + 1) cs runs) fun _ => actsOn_nil rfl

/-- One iterator of the resource at `p` acts only below `p`. -/
theorem driveRun_actsOn (p : Path) (r : R) (stack : List R) (i : Nat) :
    ∀ run : IterRun R, ActsOn (fun q => ∃ x, p ++ [x] <+: q) (driveRun m V p r stack i run).acts
  | .mk items raises => by
    rw [driveRun]
    refine actsOn_bind (yieldAll_actsOn p r stack i 0 items) fun _ => ?_
    cases raises <;> exact actsOn_nil rfl

/-- The items of one iterator of the resource at `p` act only below `p`. -/
theorem yieldAll_actsOn (p : Path) (r : R) (stack : List R) (i : Nat) :
    ∀ (j : Nat) (items : List (Served R)),
      ActsOn (fun q => ∃ x, p ++ [x] <+: q) (yieldAll m V p r stack i j items).acts
  | _, [] => actsOn_nil rfl
  | j, c :: cs => by
    rw [yieldAll]
    exact actsOn_bind (actsOn_yieldOne m V ⟨(i, j), List.prefix_refl _⟩
      ((accept_actsOn (p ++ [(i, j)]) c (stack ++ [r])).mono fun _ h => ⟨(i, j), h⟩))
      fun _ => yieldAll_actsOn p r stack i (j + 1) cs
end

end Paths

/-! ### The loop over the iterators -/

section Loop

variable (m : Methods R) (V : Visitor R)

/-- What the `i`-th iterator does with what the client produced for it, or nothing once the
client's answers have run out. -/
def iterRun (p : Path) (r : R) (stack : List R) (i : Nat) : Option (IterRun R) → Crawl R Unit
  | some run => driveRun m V p r stack i run
  | none => pure ()

/-- The warnings the loop records for an iterator's outcome: none when it returned or raised a
benign `ApiExecutionError`, and otherwise `'Exception raised processing %s: %s' % (self, e)`,
with `s` the text of `repr(self)`. -/
def failureWarnings (s : String) : Except Exn Unit → List String
  | .ok () => []
  | .error e => if e.isSkipped then [] else ["Exception raised processing " ++ s ++ ": " ++ e.str]

/-- The actions of the loop for the `i`-th class `c` of `contains`: the iterator is made and
driven, does what it does, and its failure warning, if any, is recorded. -/
def iterSegment (p : Path) (r : R) (stack : List R) (s : String) (i : Nat) (c : String)
    (run? : Option (IterRun R)) : List (Act R) :=
  .drive p i c :: (iterRun m V p r stack i run?).acts ++
    (failureWarnings s (iterRun m V p r stack i run?).res).map (.warn p)

/-- Once `repr(self)` computes, one pass of the loop records exactly the failure warnings of what
it drives, and returns them. -/
theorem driveOne_of_repr {p : Path} {r : R} {stack : List R} {s : String} (hrepr : m.repr r stack = .ok s)
    (i : Nat) (c : String) (run : Crawl R Unit) :
    driveOne m p r stack i c run = ⟨.drive p i c :: run.acts ++
      (failureWarnings s run.res).map (.warn p), .ok (failureWarnings s run.res)⟩ := by
  unfold driveOne
  rw [bind_of_ok (emit_res _)]
  cases h : run.res with
  | ok v =>
    rw [handle_of_ok (by rw [bind_of_ok h]; rfl)]
    simp [bind_of_ok h, failureWarnings]
  | error e =>
    rw [handle_of_error (by rw [bind_of_error h])]
    unfold iterFailure
    by_cases hs : e.isSkipped = true
    · simp [hs, bind_of_error h, failureWarnings]
    · simp [hs, bind_of_error h, failureWarnings, hrepr, bind_of_ok]

/-- Once the client's answers have run out, the loop makes and drives the remaining classes. -/
theorem driveAll_nil_runs (p : Path) (r : R) (stack : List R) (i : Nat) (cs : List String) :
    driveAll m V p r stack i cs [] = ⟨(driveRest p i cs).acts, .ok []⟩ := by
  cases cs with
  | nil => rfl
  | cons c cs => rw [driveAll, bind_of_ok (returns_driveRest p i (c :: cs)).1] <;> simp

/-- The same in closed form: each remaining class is made and driven, does nothing and records no
warning, whatever the text of `repr(self)`. -/
theorem driveAll_nil_runs_closed (p : Path) (r : R) (stack : List R) (s : String) (i : Nat)
    (cs : List String) :
    driveAll m V p r stack i cs [] =
      ⟨(cs.enum.map fun kc =>
          iterSegment m V p r stack s (i + kc.1) kc.2 ([] : List (IterRun R))[kc.1]?).flatten,
       .ok (cs.enum.map fun kc => failureWarnings s
          (iterRun m V p r stack (i + kc.1) ([] : List (IterRun R))[kc.1]?).res).flatten⟩ := by
  induction cs generalizing i with
  | nil => simp [driveAll]; rfl
  | cons c cs ih =>
    have h := congrArg Crawl.acts (ih (i + 1))
    rw [driveAll_nil_runs] at h ⊢
    simp only [driveRest, bind_of_ok (emit_res _), emit_acts] at h ⊢
    simp [iterSegment, iterRun, failureWarnings] at h
    simp [List.enum_cons', iterSegment, iterRun, failureWarnings, Function.comp_def, h,
      Nat.add_assoc, Nat.add_comm 1]

/-- Once `repr(self)` computes, the loop makes and drives every class of `cs`, in order, each
followed by what its iterator did and its failure warnings, and returns all the warnings. -/
theorem driveAll_of_repr {p : Path} {r : R} {stack : List R} {s : String}
    (hrepr : m.repr r stack = .ok s) (i : Nat) (cs : List String) (runs : List (IterRun R)) :
    driveAll m V p r stack i cs runs =
      ⟨(cs.enum.map fun kc => iterSegment m V p r stack s (i + kc.1) kc.2 runs[kc.1]?).flatten,
       .ok (cs.enum.map fun kc =>
         failureWarnings s (iterRun m V p r stack (i + kc.1) runs[kc.1]?).res).flatten⟩ := by
  induction cs generalizing i runs with
  | nil => simp [driveAll]; rfl
  | cons c cs ih =>
    cases runs with
    | nil => exact driveAll_nil_runs_closed m V p r stack s i (c :: cs)
    | cons run runs =>
      rw [driveAll, driveOne_of_repr m hrepr, bind_of_ok rfl, ih (i + 1) runs, bind_of_ok rfl]
      simp [List.enum_cons', iterSegment, iterRun, Function.comp_def, Nat.add_assoc, Nat.add_comm 1]

/-- A pass of the loop that returned recorded the failure warning of its iterator, if any, with
the text of `repr(self)`; it recorded one only if `repr(self)` computed. -/
theorem driveOne_of_ok {p : Path} {r : R} {stack : List R} {text : String}
    (htext : ∀ s, m.repr r stack = .ok s → s = text) {i : Nat} {c : String} {run : Crawl R Unit}
    {w : List String} (h : (driveOne m p r stack i c run).res = .ok w) :
    (m.repr r stack = .ok text ∨ w = []) ∧ driveOne m p r stack i c run = ⟨.drive p i c ::
      run.acts ++ (failureWarnings text run.res).map (.warn p), .ok (failureWarnings text run.res)⟩ := by
  cases hr : m.repr r stack with
  | ok s => rw [← htext s hr]; exact ⟨.inl rfl, driveOne_of_repr m hr i c run⟩
  | error e0 =>
    unfold driveOne at h ⊢
    rw [bind_of_ok (emit_res _)] at h ⊢
    cases hrun : run.res with
    | ok v =>
      rw [handle_of_ok (by rw [bind_of_ok hrun]; rfl)] at h ⊢
      simp [bind_of_ok hrun, failureWarnings] at h ⊢
      exact h
    | error e =>
      rw [handle_of_error (by rw [bind_of_error hrun])] at h ⊢
      unfold iterFailure at h ⊢
      by_cases hs : e.isSkipped = true
      · simp [hs, bind_of_error hrun, failureWarnings] at h ⊢
        exact h
      · simp [hs, hr] at h

/-- A loop that returned has the closed form of `driveAll_of_repr`, with the text of `repr(self)`
whenever it computes; it returned a warning only if `repr(self)` computed. -/
theorem driveAll_of_ok {p : Path} {r : R} {stack : List R} {text : String}
    (htext : ∀ s, m.repr r stack = .ok s → s = text) (i : Nat) (cs : List String)
    (runs : List (IterRun R)) {ws : List String} (h : (driveAll m V p r stack i cs runs).res = .ok ws) :
    (m.repr r stack = .ok text ∨ ws = []) ∧ driveAll m V p r stack i cs runs =
      ⟨(cs.enum.map fun kc => iterSegment m V p r stack text (i + kc.1) kc.2 runs[kc.1]?).flatten,
       .ok (cs.enum.map fun kc =>
         failureWarnings text (iterRun m V p r stack (i + kc.1) runs[kc.1]?).res).flatten⟩ := by
  induction cs generalizing i runs ws with
  | nil =>
    rw [driveAll] at h
    cases h
    exact ⟨.inr rfl, by simp [driveAll]; rfl⟩
  | cons c cs ih =>
    cases runs with
    | nil =>
      rw [driveAll_nil_runs] at h
      cases h
      exact ⟨.inr rfl, driveAll_nil_runs_closed m V p r stack text i (c :: cs)⟩
    | cons run runs =>
      rw [driveAll] at h ⊢
      obtain ⟨w, h1, h⟩ := res_bind_eq_ok h
      obtain ⟨ws', h2, h⟩ := res_bind_eq_ok h
      cases h
      obtain ⟨hw, hone⟩ := driveOne_of_ok m htext h1
      obtain ⟨hws, hall⟩ := ih (i + 1) runs h2
      refine ⟨hw.elim .inl fun hw => hws.imp id fun hws => by simp [hw, hws], ?_⟩
      rw [hone, bind_of_ok rfl, hall, bind_of_ok rfl]
      simp [List.enum_cons', iterSegment, iterRun, Function.comp_def, Nat.add_assoc, Nat.add_comm 1]

/-- Some text that `repr(self)` gives whenever it computes. -/
theorem exists_repr_text (m : Methods R) (r : R) (stack : List R) :
    ∃ text, ∀ s, m.repr r stack = .ok s → s = text := by
  cases m.repr r stack with
  | ok s => exact ⟨s, fun _ h => by cases h; rfl⟩
  | error e => exact ⟨"", fun _ h => by cases h⟩

/-- One pass of the loop records, on the resource, the failure warnings of its iterator and no
other: its children act below it. -/
theorem warningsAt_iterSegment (p : Path) (r : R) (stack : List R) (s : String) (i : Nat)
    (c : String) (run? : Option (IterRun R)) :
    warningsAt p (iterSegment m V p r stack s i c run?) =
      failureWarnings s (iterRun m V p r stack i run?).res := by
  have hrun : warningsAt p (iterRun m V p r stack i run?).acts = [] := by
    cases run? with
    | none => rfl
    | some run => exact warningsAt_of_actsOn (driveRun_actsOn m V p r stack i run)
  simp [iterSegment, Act.warnAt, hrun]

/-- A loop that returned has recorded on its resource exactly the warnings it returns. -/
theorem warningsAt_driveAll {p : Path} {r : R} {stack : List R} {i : Nat} {cs : List String}
    {runs : List (IterRun R)} {ws : List String} (h : (driveAll m V p r stack i cs runs).res = .ok ws) :
    warningsAt p (driveAll m V p r stack i cs runs).acts = ws := by
  obtain ⟨text, htext⟩ := exists_repr_text m r stack
  have hclosed := (driveAll_of_ok m V htext i cs runs h).2
  rw [hclosed] at h ⊢
  cases h
  simp only [warningsAt, List.filterMap_flatten, List.map_map]
  congr 1
  exact List.map_congr_left fun kc _ => warningsAt_iterSegment m V p r stack text _ kc.2 _

/-- A failure warning contains `repr(self)`. -/
theorem infix_of_mem_failureWarnings {s w : String} {x : Except Exn Unit}
    (h : w ∈ failureWarnings s x) : s.toList <:+: w.toList := by
  rcases x with e | _
  · by_cases hs : e.isSkipped = true
    · simp [failureWarnings, hs] at h
    · simp only [failureWarnings, hs, Bool.false_eq_true, if_false, List.mem_singleton] at h
      subst h
      exact ⟨("Exception raised processing ").toList, (": " ++ e.str).toList, by simp⟩
  · simp [failureWarnings] at h

/-- In a crawl from a root, a visited resource with the `parent()` of `Resource` has a `repr`: its
parent is itself if it is a root and the top of its stack otherwise, whose key computed when that
parent passed its own exclusion check. -/
theorem repr_ok_of_visit {t : Served R} (htop : m.isRoot t.res = true) {s : Pool R}
    (hs : Reachable m V t s) {p : Path} {r : R} {stack : List R} (hv : .visit p r stack ∈ s.log)
    (hr : m.hasParent r = true) : ∃ text, m.repr r stack = .ok text := by
  have hw := mem_walk_of_log m V hs (x := (⟨p, r, stack⟩, true))
    (List.mem_filterMap.mpr ⟨_, hv, rfl⟩)
  obtain ⟨hstack, hpass⟩ := walk_passes m V.excludedResources [] [] (by simp [StackPasses]) t _ hw
  obtain ⟨q, rs, -, hrs, hy⟩ := mem_walk m V.excludedResources [] [] t _ hw
  simp only [List.nil_append] at hrs
  subst hrs
  cases hroot : m.isRoot r
  · obtain ⟨rest, y, hst⟩ := (List.eq_nil_or_concat stack).resolve_left fun h => by
      subst h
      have := hy.head?
      simp only [List.nil_append, List.head?_cons, Option.some.injEq] at this
      simp_all
    rw [List.concat_eq_append] at hst
    subst hst
    obtain ⟨k, hk⟩ := m.key_ok_of_passes (by simpa using hstack rest.length (by simp))
    exact ⟨_, m.repr_of_parent (m.parent_append r y rest hr hroot) hk⟩
  · obtain ⟨k, hk⟩ := m.key_ok_of_passes (hpass rfl)
    exact ⟨_, m.repr_of_parent (m.parent_of_isRoot r stack hr hroot) hk⟩

/-- When a resource passes the exclusion check and its visit returns, `accept` enters it, visits
it, records the visit's warnings and runs its loop. -/
theorem acceptWith_acts_of_visit {p : Path} {r : R} {stack : List R}
    {loop : Crawl R (List String)} {ws : List String}
    (hpass : m.passes V.excludedResources r stack = true) (hv : (V.visit r).2 = none)
    (hloop : loop.res = .ok ws) :
    ∃ rest, (acceptWith m V p r stack loop).acts = [.enter p r stack, .visit p r stack] ++
      (V.visit r).1.map (.warn p) ++ loop.acts ++ rest := by
  obtain ⟨names, hn, hex⟩ := m.curResourceRepr_of_passes hpass
  unfold acceptWith
  rw [bind_of_ok (emit_res _), hn, lift_ok_bind]
  simp only [hex, Bool.false_eq_true, if_false]
  rw [bind_of_ok (returns_visitCall V hv).1, bind_of_ok hloop]
  simp only [emit_acts, visitCall_acts, List.cons_append, List.singleton_append, List.append_assoc]
  exact ⟨_, rfl⟩

end Loop

section Crawl

variable (m : Methods R) (V : Visitor R)

/-- In a crawl from a root, for a visited resource and whatever its iterators produce and raise:
when its visit returns, `accept` runs its loop right after the visit, and the loop makes and
drives every class of its `contains` list, in order, whatever the ones before raised, each
followed by what its iterator did and, if that raised anything but a benign `ApiExecutionError`,
by exactly one warning, which contains `repr(self)`; the loop returns these warnings. -/
theorem crawl_loop_drives_every_iterator (t : Served R) (htop : m.isRoot t.res = true)
    {s : Pool R} (hs : Reachable m V t s) {p : Path} {r : R} {stack : List R}
    (hv : .visit p r stack ∈ s.log) (runs : List (IterRun R)) :
    ∃ text, (m.contains r ≠ [] → m.repr r stack = .ok text) ∧
      ((V.visit r).2 = none → ∃ rest, (accept m V p (.node r runs) stack).acts =
        [.enter p r stack, .visit p r stack] ++ (V.visit r).1.map (.warn p) ++
          (driveAll m V p r stack 0 (m.contains r) runs).acts ++ rest) ∧
      driveAll m V p r stack 0 (m.contains r) runs =
        ⟨((m.contains r).enum.map fun kc =>
            iterSegment m V p r stack text kc.1 kc.2 runs[kc.1]?).flatten,
         .ok ((m.contains r).enum.map fun kc =>
            failureWarnings text (iterRun m V p r stack kc.1 runs[kc.1]?).res).flatten⟩ := by
  have hpass : m.passes V.excludedResources r stack = true := by
    have hw := mem_walk_of_log m V hs (x := (⟨p, r, stack⟩, true))
      (List.mem_filterMap.mpr ⟨_, hv, rfl⟩)
    exact (walk_passes m V.excludedResources [] [] (by simp [StackPasses]) t _ hw).2 rfl
  obtain ⟨text, hloop, htext⟩ : ∃ text, driveAll m V p r stack 0 (m.contains r) runs =
      ⟨((m.contains r).enum.map fun kc =>
          iterSegment m V p r stack text kc.1 kc.2 runs[kc.1]?).flatten,
       .ok ((m.contains r).enum.map fun kc =>
          failureWarnings text (iterRun m V p r stack kc.1 runs[kc.1]?).res).flatten⟩ ∧
      (m.contains r ≠ [] → m.repr r stack = .ok text) := by
    cases hr : m.hasParent r
    · rw [m.contains_eq_nil r hr]
      exact ⟨"", by simp [driveAll]; rfl, fun h => absurd rfl h⟩
    · obtain ⟨text, htext⟩ := repr_ok_of_visit m V htop hs hv hr
      exact ⟨text, by simpa using driveAll_of_repr m V htext 0 (m.contains r) runs,
        fun _ => htext⟩
  refine ⟨text, htext, fun hvis => ?_, hloop⟩
  rw [accept]
  exact acceptWith_acts_of_visit m V hpass hvis (by rw [hloop])

end Crawl

/-! ### Reaching the first item of an iterator -/

section Reach

variable (m : Methods R) (V : Visitor R) {α β : Type}

/-- What some actions enter and visit, any actions around them enter and visit. -/
theorem trace_subset_of_infix {A B : List (Act R)} (h : A <:+: B) : ∀ x ∈ trace A, x ∈ trace B := by
  obtain ⟨s, t, rfl⟩ := h
  intro x hx
  simp [trace_append, hx]

/-- A bind begins with the actions of its first part. -/
theorem acts_prefix_bind (x : Crawl R α) (f : α → Crawl R β) : x.acts <+: (x >>= f).acts := by
  cases h : x.res with
  | error e => rw [bind_of_error h]
  | ok v => rw [bind_of_ok h]; exact List.prefix_append _ _

/-- A handled computation begins with its own actions. -/
theorem acts_prefix_handle (x : Crawl R α) (k : Exn → Crawl R α) :
    x.acts <+: (handle x k).acts := by
  cases h : x.res with
  | ok v => rw [handle_of_ok h]
  | error e => rw [handle_of_error h]; exact List.prefix_append _ _

/-- An item's `try_accept`, inline or dispatched, enters and visits all that its `accept` does,
unless its dispatch raises. -/
theorem trace_yieldOne_subset {q : Path} {c : R} {stack : List R} {run : Crawl R Unit}
    (hdisp : m.shouldDispatch c = true → ∀ e, V.dispatch c ≠ .raise e) :
    ∀ x ∈ trace run.acts, x ∈ trace (yieldOne m V q c stack run).acts := by
  have ht : ∀ x ∈ trace run.acts, x ∈ trace (tryAccept m V q c stack run).acts :=
    trace_subset_of_infix (acts_prefix_handle _ _).isInfix
  unfold yieldOne dispatchCall
  split
  · rename_i hs
    split
    · intro x hx
      simpa [trace, expandOne, Act.node?] using ht x hx
    · exact ht
    · rename_i e he
      exact absurd he (hdisp hs e)
  · exact ht

/-- An item dispatched to the pool returns at once, whatever its callback does. -/
theorem yieldOne_res_of_defer {q : Path} {c : R} {stack : List R} {run : Crawl R Unit}
    (hs : m.shouldDispatch c = true) (hd : V.dispatch c = .defer) :
    (yieldOne m V q c stack run).res = .ok () := by
  simp [yieldOne, dispatchCall, hs, hd]

/-- The loop over an iterator's items reaches the `j`-th when the `try_accept` or dispatch of every
item before it returns. -/
theorem yieldOne_infix_yieldAll (p : Path) (r : R) (stack : List R) (i : Nat) :
    ∀ (j k : Nat) (items : List (Served R)) (c : Served R), items[j]? = some c →
      (∀ j' < j, ∀ c', items[j']? = some c' → (yieldOne m V (p ++ [(i, k + j')]) c'.res
          (stack ++ [r]) (accept m V (p ++ [(i, k + j')]) c' (stack ++ [r]))).res = .ok ()) →
      (yieldOne m V (p ++ [(i, k + j)]) c.res (stack ++ [r])
          (accept m V (p ++ [(i, k + j)]) c (stack ++ [r]))).acts <:+:
        (yieldAll m V p r stack i k items).acts
  | 0, k, c' :: cs, c, hc, _ => by
    obtain rfl : c' = c := by simpa using hc
    rw [yieldAll]
    exact (acts_prefix_bind _ _).isInfix
  | j + 1, k, c' :: cs, c, hc, hbefore => by
    have hone := hbefore 0 (Nat.succ_pos j) c' (by simp)
    have ih := yieldOne_infix_yieldAll p r stack i j (k + 1) cs c (by simpa using hc)
      fun j' hj' c'' h => by
        simpa [Nat.add_assoc, Nat.add_comm 1] using hbefore (j' + 1) (by omega) c'' (by simpa using h)
    rw [show k + (j + 1) = k + 1 + j by omega, yieldAll, bind_of_ok (by simpa using hone)]
    exact ih.trans (List.suffix_append _ _).isInfix

/-- Two one-step extensions of `p` that both begin `q` are the same step. -/
theorem eq_of_prefix_append_singleton {p q : Path} {x y : Nat × Nat} (hx : p ++ [x] <+: q)
    (hy : p ++ [y] <+: q) : x = y := by
  have h := (List.prefix_of_prefix_length_le hx hy (by simp)).eq_of_length (by simp)
  simpa using h

/-- When a resource passes the exclusion check, its visit returns and `repr(self)` computes, its
`accept` reaches every item of its iterators that is yielded after items whose `try_accept` or
dispatch returned: it enters and visits all that the item's crawl does, inline or dispatched,
unless the item's dispatch raises. -/
theorem trace_item_subset {p : Path} {r : R} {runs : List (IterRun R)} {stack : List R}
    (hpass : m.passes V.excludedResources r stack = true) (hv : (V.visit r).2 = none)
    {text : String} (hrepr : m.repr r stack = .ok text) {i : Nat} (hi : i < (m.contains r).length)
    {items : List (Served R)} {raises : Option Exn} (hrun : runs[i]? = some (.mk items raises))
    {j : Nat} {c : Served R} (hc : items[j]? = some c)
    (hbefore : ∀ j' < j, ∀ c', items[j']? = some c' → (yieldOne m V (p ++ [(i, j')]) c'.res
      (stack ++ [r]) (accept m V (p ++ [(i, j')]) c' (stack ++ [r]))).res = .ok ())
    (hdisp : m.shouldDispatch c.res = true → ∀ e, V.dispatch c.res ≠ .raise e) :
    ∀ x ∈ trace (accept m V (p ++ [(i, j)]) c (stack ++ [r])).acts,
      x ∈ trace (accept m V p (.node r runs) stack).acts := by
  have hloop := driveAll_of_repr m V (p := p) hrepr 0 (m.contains r) runs
  obtain ⟨rest, hacts⟩ := acceptWith_acts_of_visit m V (p := p) hpass hv
    (show (driveAll m V p r stack 0 (m.contains r) runs).res = _ by rw [hloop])
  have hitem : (yieldOne m V (p ++ [(i, j)]) c.res (stack ++ [r])
      (accept m V (p ++ [(i, j)]) c (stack ++ [r]))).acts <:+:
        (driveRun m V p r stack i (.mk items raises)).acts := by
    have h := yieldOne_infix_yieldAll m V p r stack i j 0 items c hc
      fun j' hj' c' h' => by simpa using hbefore j' hj' c' h'
    rw [Nat.zero_add] at h
    rw [driveRun]
    exact h.trans (acts_prefix_bind _ _).isInfix
  have hrunIn : (driveRun m V p r stack i (.mk items raises)).acts <:+:
      (driveAll m V p r stack 0 (m.contains r) runs).acts := by
    obtain ⟨n, hn⟩ : ∃ n, (m.contains r)[i]? = some n := ⟨_, List.getElem?_eq_getElem hi⟩
    have hmem : iterSegment m V p r stack text i n runs[i]? ∈ (m.contains r).enum.map
        fun kc => iterSegment m V p r stack text (0 + kc.1) kc.2 runs[kc.1]? :=
      List.mem_map.mpr ⟨(i, n), List.mem_enum_iff_getElem?.mpr hn, by simp⟩
    rw [hloop]
    refine List.IsInfix.trans ?_ (List.infix_of_mem_flatten hmem)
    rw [hrun]
    exact ⟨[.drive p i n], (failureWarnings text
      (driveRun m V p r stack i (.mk items raises)).res).map (.warn p),
      by simp [iterSegment, iterRun]⟩
  have hloopIn : (driveAll m V p r stack 0 (m.contains r) runs).acts <:+:
      (accept m V p (.node r runs) stack).acts := by
    rw [accept, hacts]
    exact ⟨[.enter p r stack, .visit p r stack] ++ (V.visit r).1.map (.warn p), rest, rfl⟩
  intro x hx
  exact trace_subset_of_infix (hitem.trans (hrunIn.trans hloopIn)) x
    (trace_yieldOne_subset m V hdisp x hx)

/-- `accept` enters its resource first. -/
theorem enter_mem_trace_accept (p : Path) (t : Served R) (stack : List R) :
    (⟨p, t.res, stack⟩, false) ∈ trace (accept m V p t stack).acts := by
  obtain ⟨r, runs⟩ := t
  rw [accept, acceptWith, bind_of_ok (emit_res _)]
  simp [trace_append, trace, expandOne, Act.node?, Served.res]

end Reach

/-- What the first two iterators of an organization produce: the first raises a permission error
from its API call, the second a benign "Not found"; the others yield nothing. -/
def failingRuns : List (IterRun Resource) :=
  [.mk [] (some (.apiExecutionError "403 The caller does not have permission")),
   .mk [] (some (.apiExecutionError "404 Not found"))]

/-- The statement holds of the root organization of the sample crawl, once visited in a finished
schedule, for iterators of which the first fails and the second raises a benign error. -/
theorem crawl_loop_drives_every_iterator_sample :
    ∃ s, Reachable (resourceMethods sampleExternals) sampleVisitor sampleTree s ∧
      .visit [] sampleOrg [] ∈ s.log ∧
      (resourceMethods sampleExternals).isRoot sampleTree.res = true ∧
      ∃ text, ((resourceMethods sampleExternals).contains sampleOrg ≠ [] →
          (resourceMethods sampleExternals).repr sampleOrg [] = .ok text) ∧
        ((sampleVisitor.visit sampleOrg).2 = none → ∃ rest,
          (accept (resourceMethods sampleExternals) sampleVisitor [] (.node sampleOrg failingRuns)
              []).acts =
            [.enter [] sampleOrg [], .visit [] sampleOrg []] ++
              (sampleVisitor.visit sampleOrg).1.map (.warn []) ++
              (driveAll (resourceMethods sampleExternals) sampleVisitor [] sampleOrg [] 0
                ((resourceMethods sampleExternals).contains sampleOrg) failingRuns).acts ++ rest) ∧
        driveAll (resourceMethods sampleExternals) sampleVisitor [] sampleOrg [] 0
            ((resourceMethods sampleExternals).contains sampleOrg) failingRuns =
          ⟨(((resourceMethods sampleExternals).contains sampleOrg).enum.map fun kc =>
              iterSegment (resourceMethods sampleExternals) sampleVisitor [] sampleOrg [] text kc.1
                kc.2 failingRuns[kc.1]?).flatten,
           .ok (((resourceMethods sampleExternals).contains sampleOrg).enum.map fun kc =>
              failureWarnings text (iterRun (resourceMethods sampleExternals) sampleVisitor [] sampleOrg
                [] kc.1 failingRuns[kc.1]?).res).flatten⟩ := by
  obtain ⟨s, hs, hd⟩ :=
    exists_done (start (resourceMethods sampleExternals) sampleVisitor sampleTree)
  have hv : .visit [] sampleOrg [] ∈ s.log := visit_mem_log_of_walk _ _ sampleTree_quiet hs hd (by
    have hp : (resourceMethods sampleExternals).passes sampleVisitor.excludedResources sampleOrg [] =
        true := by decide
    simp [sampleTree, walk, hp])
  exact ⟨s, hs, hv, rfl, crawl_loop_drives_every_iterator _ _ sampleTree rfl hs hv failingRuns⟩

/-! ### The flush of a resource's warnings -/

section Flush

variable (m : Methods R) (V : Visitor R)

/-- `visitor.visit(self)` that returned returned the warnings it recorded. -/
theorem visitCall_of_ok {p : Path} {r : R} {stack : List R} {ws : List String}
    (h : (visitCall V p r stack).res = .ok ws) : (V.visit r).2 = none ∧ ws = (V.visit r).1 := by
  unfold visitCall at h
  cases hv : (V.visit r).2 <;> simp [bind_of_ok, warnAll, hv] at h
  exact ⟨rfl, h.symm⟩

/-- When `accept` returns on a resource that passes the exclusion check, its visit and its loop
returned, and what follows the loop records no warning and, if the resource has any, is the flush
of all of them with its full name. -/
theorem acceptWith_of_ok {p : Path} {r : R} {stack : List R} {loop : Crawl R (List String)}
    (hpass : m.passes V.excludedResources r stack = true)
    (hok : (acceptWith m V p r stack loop).res = .ok ()) :
    ∃ ws, loop.res = .ok ws ∧ ∃ flush, (acceptWith m V p r stack loop).acts =
      [.enter p r stack, .visit p r stack] ++ (V.visit r).1.map (.warn p) ++ loop.acts ++ flush ∧
      warningsAt p flush = [] ∧
      (m.warnings r ++ (V.visit r).1 ++ ws ≠ [] → ∃ name, m.fullName r stack = .ok name ∧
        .childError p name (.warning ("\n".intercalate (m.warnings r ++ (V.visit r).1 ++ ws))) ∈
          flush) := by
  obtain ⟨names, hn, hex⟩ := m.curResourceRepr_of_passes hpass
  unfold acceptWith at hok ⊢
  rw [bind_of_ok (emit_res _), hn, lift_ok_bind] at hok ⊢
  simp only [hex, Bool.false_eq_true, if_false] at hok ⊢
  obtain ⟨vws, hv, hok⟩ := res_bind_eq_ok hok
  obtain ⟨ws, hl, hok⟩ := res_bind_eq_ok hok
  obtain ⟨-, rfl⟩ := visitCall_of_ok V hv
  rw [bind_of_ok hv, bind_of_ok hl]
  refine ⟨ws, hl, (if (m.warnings r ++ (V.visit r).1 ++ ws).isEmpty then pure () else do
      let name ← lift (m.fullName r stack)
      onChildError V p name (.warning ("\n".intercalate (m.warnings r ++ (V.visit r).1 ++ ws))) :
        Crawl R Unit).acts, ?_, ?_, fun hne => ?_⟩
  · simp
  · split
    · rfl
    · cases m.fullName r stack <;> simp [bind_of_ok, Act.warnAt]
  · have hne' : (m.warnings r ++ (V.visit r).1 ++ ws).isEmpty = false := by simpa using hne
    simp only [hne', Bool.false_eq_true, if_false] at hok ⊢
    cases hf : m.fullName r stack with
    | error e => rw [hf, lift_error_bind] at hok; cases hok
    | ok name => exact ⟨name, rfl, by simp [bind_of_ok]⟩

/-- When `accept` returns on a resource that passes the exclusion check, every warning of the
resource reaches the visitor. The warnings recorded on it are those its visit recorded, then one
for each iterator that raised anything but a benign `ApiExecutionError`, naming `repr(self)`; these,
after the warnings it was made with, are joined and passed to one `on_child_error` call, with the
resource's full name. -/
theorem accept_flushes_warnings (p : Path) (r : R) (runs : List (IterRun R)) (stack : List R)
    (hok : (accept m V p (.node r runs) stack).res = .ok ())
    (hpass : m.passes V.excludedResources r stack = true) :
    ∃ text, warningsAt p (accept m V p (.node r runs) stack).acts = (V.visit r).1 ++
        ((m.contains r).enum.map fun kc =>
          failureWarnings text (iterRun m V p r stack kc.1 runs[kc.1]?).res).flatten ∧
      (((m.contains r).enum.map fun kc =>
          failureWarnings text (iterRun m V p r stack kc.1 runs[kc.1]?).res).flatten ≠ [] →
        m.repr r stack = .ok text) ∧
      (m.warnings r ++ warningsAt p (accept m V p (.node r runs) stack).acts ≠ [] →
        ∃ name, m.fullName r stack = .ok name ∧
          .childError p name (.warning ("\n".intercalate
            (m.warnings r ++ warningsAt p (accept m V p (.node r runs) stack).acts))) ∈
            (accept m V p (.node r runs) stack).acts) := by
  rw [accept] at hok ⊢
  obtain ⟨ws, hl, flush, hacts, hflush, hmem⟩ := acceptWith_of_ok m V hpass hok
  obtain ⟨text, htext⟩ := exists_repr_text m r stack
  obtain ⟨hrepr, hloop⟩ := driveAll_of_ok m V htext 0 (m.contains r) runs hl
  have hws : ws = ((m.contains r).enum.map fun kc =>
      failureWarnings text (iterRun m V p r stack kc.1 runs[kc.1]?).res).flatten := by
    rw [hloop] at hl
    simpa using hl.symm
  have hrec : warningsAt p (acceptWith m V p r stack (driveAll m V p r stack 0 (m.contains r) runs)).acts =
      (V.visit r).1 ++ ws := by
    simp [hacts, hflush, Act.warnAt, warningsAt_driveAll m V hl]
  refine ⟨text, hrec.trans (by rw [hws]), fun hne => ?_, fun hne => ?_⟩
  · exact hrepr.resolve_right (hws ▸ hne)
  · rw [hrec, ← List.append_assoc] at hne ⊢
    obtain ⟨name, hname, hin⟩ := hmem hne
    exact ⟨name, hname, hacts ▸ List.mem_append_right _ hin⟩

end Flush

/-- A visitor that records one warning on every resource it visits and raises nothing. -/
def warningVisitor : Visitor Resource :=
  ⟨[], fun _ => (["Could not get IAM policy"], none), fun _ => .defer, fun _ _ => none⟩

/-- The statement holds of a lone organization visited by `warningVisitor` whose first iterator
fails: its visit warning and its first iterator's failure warning are flushed. -/
theorem accept_flushes_warnings_failing :
    (accept (resourceMethods sampleExternals) warningVisitor [] (.node sampleOrg failingRuns)
      []).res = .ok () ∧
    (resourceMethods sampleExternals).passes warningVisitor.excludedResources sampleOrg [] = true ∧
    ∃ text, warningsAt [] (accept (resourceMethods sampleExternals) warningVisitor []
        (.node sampleOrg failingRuns) []).acts = (warningVisitor.visit sampleOrg).1 ++
        (((resourceMethods sampleExternals).contains sampleOrg).enum.map fun kc =>
          failureWarnings text (iterRun (resourceMethods sampleExternals) warningVisitor [] sampleOrg
            [] kc.1 failingRuns[kc.1]?).res).flatten ∧
      ((((resourceMethods sampleExternals).contains sampleOrg).enum.map fun kc =>
          failureWarnings text (iterRun (resourceMethods sampleExternals) warningVisitor [] sampleOrg
            [] kc.1 failingRuns[kc.1]?).res).flatten ≠ [] →
        (resourceMethods sampleExternals).repr sampleOrg [] = .ok text) ∧
      ((resourceMethods sampleExternals).warnings sampleOrg ++ warningsAt []
          (accept (resourceMethods sampleExternals) warningVisitor [] (.node sampleOrg failingRuns)
            []).acts ≠ [] →
        ∃ name, (resourceMethods sampleExternals).fullName sampleOrg [] = .ok name ∧
          .childError [] name (.warning ("\n".intercalate
            ((resourceMethods sampleExternals).warnings sampleOrg ++ warningsAt []
              (accept (resourceMethods sampleExternals) warningVisitor []
                (.node sampleOrg failingRuns) []).acts))) ∈
            (accept (resourceMethods sampleExternals) warningVisitor [] (.node sampleOrg failingRuns)
              []).acts) :=
  have hok : (accept (resourceMethods sampleExternals) warningVisitor []
      (.node sampleOrg failingRuns) []).res = .ok () := rfl
  have hpass : (resourceMethods sampleExternals).passes warningVisitor.excludedResources sampleOrg
      [] = true := by decide
  ⟨hok, hpass, accept_flushes_warnings _ _ [] sampleOrg failingRuns [] hok hpass⟩


set_option maxRecDepth 4000 in
/-- The two warnings of that crawl: the visit's, and the first iterator's failure, which names
`repr(self)`; the benign "Not found" adds none. -/
example : warningsAt [] (accept (resourceMethods sampleExternals) warningVisitor []
    (.node sampleOrg failingRuns) []).acts =
      ["Could not get IAM policy", "Exception raised processing ResourceManagerOrganization<data=" ++
        "\"\x7b\"name\": \"organizations/1\"\x7d\", parent_resource_type=\"organization\", " ++
        "parent_resource_id=\"1\">: 403 The caller does not have permission"] := by
  decide

/-- A visitor whose visit records a warning, as a failed side-band fetch does, and then raises. -/
def raisingVisitor : Visitor Resource :=
  ⟨[], fun _ => (["Could not get IAM policy"], some (.exception "visit failed")), fun _ => .defer,
    fun _ _ => none⟩

/-- A lone organization whose visit records a warning and then raises: its `accept` ends by the
exception, and every finished schedule logs the warning but no `on_child_error` at all. -/
theorem visit_warning_lost :
    (accept (resourceMethods sampleExternals) raisingVisitor [] (.node sampleOrg []) []).res =
      .error (.exception "visit failed") ∧
    ∀ s, Reachable (resourceMethods sampleExternals) raisingVisitor (.node sampleOrg []) s →
      s.Done → s.log = [.enter [] sampleOrg [], .visit [] sampleOrg [],
        .warn [] "Could not get IAM policy"] := by
  have hacts : (accept (resourceMethods sampleExternals) raisingVisitor [] (.node sampleOrg [])
      []).acts = [.enter [] sampleOrg [], .visit [] sampleOrg [],
        .warn [] "Could not get IAM policy"] := rfl
  refine ⟨rfl, fun s hs hd => ?_⟩
  have hser : Serial (accept (resourceMethods sampleExternals) raisingVisitor [] (.node sampleOrg [])
      []).acts := by
    simp [hacts, Serial, Act.spawned]
  obtain ⟨rest, hth, hlog⟩ := serial_reachable hser hs
  obtain rfl : rest = [] := hd rest (by simp [hth])
  rw [← hacts, ← hlog, List.append_nil]

end InventoryCrawler
