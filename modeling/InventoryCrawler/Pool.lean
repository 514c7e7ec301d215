import InventoryCrawler.Accept
import Mathlib.Data.List.Perm.Basic
import Mathlib.Logic.Relation

/-!
# The dispatch pool

A crawl starts with one thread, the caller's `root.accept(visitor)`. A `dispatch` action hands the
pool a callback, which some worker runs later, once; threads run interleaved at any action. A
`Pool` state is the list of the threads' remaining actions and the log of the actions taken so
far; `Step` lets any thread take its next action.

`expand` runs every dispatched callback in place. The actions a state has taken and will take,
`Pool.total`, are a permutation of `crawlActs`, the expansion of the caller's thread, in every
reachable state (`reachable_total`): no step loses, repeats or invents an action. At the end of a
run the log is therefore a permutation of `crawlActs`, whatever the schedule (`done_log_perm`), and
every state can run to an end (`exists_done`).
-/

namespace InventoryCrawler

open scoped List

variable {R : Type}

mutual
/-- The actions of a thread with every dispatched callback run in place, right after its
dispatch. -/
def expand : List (Act R) → List (Act R)
  | [] => []
  | a :: as => expandOne a ++ expand as

/-- One action with, for a dispatch, the callback's actions run in place. -/
def expandOne : Act R → List (Act R)
  | .dispatch p body => .dispatch p body :: expand body
  | .enter p r stack => [.enter p r stack]
  | .visit p r stack => [.visit p r stack]
  | .warn p w => [.warn p w]
  | .drive p i cls => [.drive p i cls]
  | .childError p name report => [.childError p name report]
end

/-- The threads an action starts: a dispatched callback, run by a worker. -/
def Act.spawned : Act R → List (List (Act R))
  | .dispatch _ body => [body]
  | _ => []

/-- No actions expand to nothing. -/
@[simp] theorem expand_nil : expand ([] : List (Act R)) = [] := by simp [expand]

/-- An action expands to its own expansion, then the rest. -/
@[simp] theorem expand_cons (a : Act R) (as : List (Act R)) :
    expand (a :: as) = expandOne a ++ expand as := by
  simp [expand]

/-- Two lists of actions expand one after the other. -/
@[simp] theorem expand_append (as bs : List (Act R)) :
    expand (as ++ bs) = expand as ++ expand bs := by
  induction as with
  | nil => simp
  | cons a as ih => simp [ih]

/-- An action expands to itself, then the threads it starts. -/
theorem expandOne_eq (a : Act R) : expandOne a = a :: (a.spawned.map expand).flatten := by
  cases a <;> simp [expandOne, Act.spawned]

/-- The state of a crawl with a pool: the actions each thread has still to take, and the actions
taken so far, in the order they were taken. -/
structure Pool (R : Type) where
  threads : List (List (Act R))
  log : List (Act R)

/-- One step of a crawl: some thread takes its next action, and a dispatch hands the pool a new
thread. -/
inductive Step : Pool R → Pool R → Prop
  | take (before after : List (List (Act R))) (a : Act R) (rest log : List (Act R)) :
      Step ⟨before ++ (a :: rest) :: after, log⟩ ⟨before ++ rest :: after ++ a.spawned, log ++ [a]⟩

/-- A pool whose threads have nothing left to do. -/
def Pool.Done (s : Pool R) : Prop := ∀ th ∈ s.threads, th = []

/-- What a pool state has done and will do, its callbacks run in place. -/
def Pool.total (s : Pool R) : List (Act R) := s.log ++ (s.threads.map expand).flatten

/-- A step moves one action to the log and keeps the whole work. -/
theorem Step.total_perm {s s' : Pool R} (h : Step s s') : s'.total.Perm s.total := by
  cases h with
  | take before after a rest log =>
    simp only [Pool.total, List.map_append, List.map_cons, List.flatten_append,
      List.flatten_cons, expand_cons, expandOne_eq, List.append_assoc, List.cons_append]
    refine List.Perm.append_left log ?_
    generalize (before.map expand).flatten = B
    generalize (after.map expand).flatten = A
    generalize (a.spawned.map expand).flatten = S
    generalize expand rest = T
    calc a :: (B ++ (T ++ (A ++ S))) ~ a :: (B ++ (S ++ (T ++ A))) :=
          (((List.perm_append_comm.append_left T).trans
            (List.perm_append_comm_assoc T S A)).append_left B).cons a
      _ ~ B ++ a :: (S ++ (T ++ A)) := List.perm_middle.symm

/-- A step leaves one action fewer to take. -/
theorem Step.pending_length {s s' : Pool R} (h : Step s s') :
    ((s'.threads.map expand).flatten).length + 1 = ((s.threads.map expand).flatten).length := by
  have hp := h.total_perm.length_eq
  cases h
  simp only [Pool.total, List.length_append, List.length_singleton] at hp ⊢
  omega

/-- A thread that dispatches nothing. -/
def Serial (acts : List (Act R)) : Prop := ∀ a ∈ acts, a.spawned = []

/-- A thread that dispatches nothing is its own expansion. -/
theorem expand_of_serial {acts : List (Act R)} (h : Serial acts) : expand acts = acts := by
  induction acts with
  | nil => rfl
  | cons a as ih =>
    have ha : a.spawned = [] := h a (List.mem_cons_self a as)
    simp [expandOne_eq, ha, ih fun b hb => h b (List.mem_cons_of_mem a hb)]

/-- A pool started on one thread that dispatches nothing keeps that one thread and logs its
actions in their order. -/
theorem serial_reachable {acts : List (Act R)} (h : Serial acts) {s : Pool R}
    (hs : Relation.ReflTransGen Step ⟨[acts], []⟩ s) :
    ∃ rest, s.threads = [rest] ∧ s.log ++ rest = acts := by
  induction hs with
  | refl => exact ⟨acts, rfl, rfl⟩
  | tail _ hstep ih =>
    obtain ⟨rest, hth, hlog⟩ := ih
    cases hstep with
    | take before after a rest' log =>
      obtain ⟨rfl, rfl, rfl⟩ : before = [] ∧ after = [] ∧ a :: rest' = rest := by
        cases before <;> simp_all
      have ha : a.spawned = [] := h a (hlog ▸ by simp)
      exact ⟨rest', by simp [ha], by simpa using hlog⟩

section Crawl

variable (m : Methods R) (V : Visitor R)

/-- The actions of the crawl of `t` with every callback run in place. -/
def crawlActs (t : Served R) : List (Act R) := expand (accept m V [] t []).acts

/-- The start of the crawl of `t`: the caller's thread runs `accept(visitor)` on its root. -/
def start (t : Served R) : Pool R := ⟨[(accept m V [] t []).acts], []⟩

/-- The states a crawl of `t` reaches, under any schedule. -/
def Reachable (t : Served R) (s : Pool R) : Prop := Relation.ReflTransGen Step (start m V t) s

/-- Every reachable state has done and will do exactly the crawl's work. -/
theorem reachable_total {t : Served R} {s : Pool R} (h : Reachable m V t s) :
    s.total.Perm (crawlActs m V t) := by
  induction h with
  | refl => simp [Pool.total, start, crawlActs]
  | tail _ hstep ih => exact hstep.total_perm.trans ih

/-- At the end of any run, the log is the crawl's work in some order. -/
theorem done_log_perm {t : Served R} {s : Pool R} (h : Reachable m V t s) (hd : s.Done) :
    s.log.Perm (crawlActs m V t) := by
  have hnil : (s.threads.map expand).flatten = [] := by
    simp only [List.flatten_eq_nil_iff, List.mem_map]
    rintro _ ⟨th, hth, rfl⟩
    simp [hd th hth]
  simpa [Pool.total, hnil] using reachable_total m V h

end Crawl

/-- From every state, some schedule runs every thread to its end. -/
theorem exists_done (s : Pool R) : ∃ s', Relation.ReflTransGen Step s s' ∧ s'.Done := by
  generalize hn : ((s.threads.map expand).flatten).length = n
  induction n generalizing s with
  | zero =>
    refine ⟨s, .refl, fun th hth => ?_⟩
    have : expand th = [] := by
      simpa using (List.flatten_eq_nil_iff.mp (List.length_eq_zero.mp hn)) (expand th)
        (List.mem_map_of_mem _ hth)
    cases th with
    | nil => rfl
    | cons a as => simp [expandOne_eq] at this
  | succ n ih =>
    by_cases hd : s.Done
    · exact ⟨s, .refl, hd⟩
    · obtain ⟨th, hth, hne⟩ : ∃ th ∈ s.threads, th ≠ [] := by
        simpa [Pool.Done] using hd
      obtain ⟨before, after, hsplit⟩ := List.append_of_mem hth
      obtain ⟨a, rest, rfl⟩ := List.exists_cons_of_ne_nil hne
      have hstep : Step s ⟨before ++ rest :: after ++ a.spawned, s.log ++ [a]⟩ := by
        obtain ⟨threads, log⟩ := s
        simp only at hsplit
        subst hsplit
        exact .take before after a rest log
      obtain ⟨s', hs', hd'⟩ := ih ⟨before ++ rest :: after ++ a.spawned, s.log ++ [a]⟩
        (by have := hstep.pending_length; omega)
      exact ⟨s', .head hstep hs', hd'⟩

/-- A pool with a thread that has an action left can take a step. -/
theorem Pool.step_of_not_done {s : Pool R} (hd : ¬ s.Done) : ∃ s', Step s s' := by
  obtain ⟨threads, log⟩ := s
  obtain ⟨th, hth, hne⟩ : ∃ th ∈ threads, th ≠ [] := by simpa [Pool.Done] using hd
  obtain ⟨before, after, rfl⟩ := List.append_of_mem hth
  obtain ⟨a, rest, rfl⟩ := List.exists_cons_of_ne_nil hne
  exact ⟨_, .take before after a rest log⟩

/-- A pool whose threads are all done takes no step. -/
theorem Pool.not_step_of_done {s s' : Pool R} (hd : s.Done) : ¬ Step s s' := by
  rintro ⟨before, after, a, rest, log⟩
  exact List.cons_ne_nil a rest (hd _ (by simp))

/-- Every step takes one of the actions left, so from any state every run ends. -/
theorem acc_step (s : Pool R) : Acc (fun s' s => Step s s') s := by
  generalize hn : ((s.threads.map expand).flatten).length = n
  induction n using Nat.strong_induction_on generalizing s with
  | _ n ih => exact .intro s fun s' h => ih _ (by have := h.pending_length; omega) s' rfl

/-- From a state every run of which ends, no infinite run starts. -/
theorem not_infinite_run {s : Pool R} (h : Acc (fun s' s => Step s s') s) :
    ¬ ∃ states : ℕ → Pool R, states 0 = s ∧ ∀ n, Step (states n) (states (n + 1)) := by
  induction h with
  | intro s _ ih =>
    rintro ⟨states, rfl, steps⟩
    exact ih _ (steps 0) ⟨fun n => states (n + 1), rfl, fun n => steps (n + 1)⟩

end InventoryCrawler
