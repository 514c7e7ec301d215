import InventoryCrawler.Outcome

/-!
# Stacks, parents and full names

`accept` stores the stack it receives, its parent's stack with the parent added, and nothing
writes it again: in the model the stack is a value that the `enter` action carries. Every resource
that a crawl enters, under any schedule, sits at the end of its stack on the path down the served
tree, and every resource of its stack has a `parent()` method of `Resource`, since a class whose
`parent()` is `None` has no iterators (`walk_hasParent`).

`get_full_resource_name` caches its result in `_full_resource_name`. `cachedFullName` is the method
with the cache of every resource, keyed by the resource's path. While every cached name is the
uncached `fullName` of its resource (`CacheSound`), a call returns `fullName` and keeps that so
(`cachedFullNameRev_spec`), so every call of any sequence returns `fullName` (`cachedRun_eq`).
Under a crawl's stack, `fullName` is the left fold of `to_full_resource_name` from `''` over the
type names along the path (`fullName_toOption_eq_fold`), when no resource below the top is a root
and the resource has the `parent()` of `Resource`. A curated role has not: its `parent()` is
`None` even below the organization that yielded it (`curated_role_entered_parent_none`).
-/

namespace InventoryCrawler

open scoped List

variable {R : Type}

/-! ### Paths down the served tree -/

/-- A path down the tree has one step less than the resources along it. -/
theorem Served.YieldPath.length_eq {t : Served R} {q : Path} {rs : List R} (h : t.YieldPath q rs) :
    rs.length = q.length + 1 := by
  induction h with
  | top => rfl
  | down _ _ _ ih => simp [ih]

/-- A path down the tree starts at its top. -/
theorem Served.YieldPath.head? {t : Served R} {q : Path} {rs : List R} (h : t.YieldPath q rs) :
    rs.head? = some t.res := by
  cases h <;> rfl

/-- A path leads to one list of resources. -/
theorem Served.YieldPath.unique {t : Served R} {q : Path} {rs rs' : List R}
    (h : t.YieldPath q rs) (h' : t.YieldPath q rs') : rs = rs' := by
  induction h generalizing rs' with
  | top => cases h'; rfl
  | down hi hj _ ih =>
    cases h' with
    | down hi' hj' hy' =>
      rw [hi] at hi'
      cases hi'
      rw [hj] at hj'
      cases hj'
      rw [ih hy']

/-- The path to the parent of a resource below the top leads to the resource's stack. -/
theorem Served.YieldPath.dropLast {t : Served R} {p : Path} {stack : List R} {r : R}
    (h : t.YieldPath p (stack ++ [r])) (hs : stack ≠ []) : t.YieldPath p.dropLast stack := by
  generalize hrs : stack ++ [r] = rs at h
  induction h generalizing stack with
  | top r₀ runs =>
    cases stack with
    | nil => exact absurd rfl hs
    | cons a as => simp at hrs
  | @down r₀ runs i j run c q rs hi hj hy ih =>
    obtain ⟨stack', rfl⟩ : ∃ stack', stack = r₀ :: stack' := by
      cases stack with
      | nil => exact absurd rfl hs
      | cons a as => exact ⟨as, by simp_all⟩
    obtain rfl : rs = stack' ++ [r] := by simpa using hrs.symm
    by_cases hne : stack' = []
    · subst hne
      have hq : q = [] := by simpa using hy.length_eq
      subst hq
      exact .top r₀ runs
    · have hq : q ≠ [] := fun hq => hne (by simpa [hq] using hy.length_eq)
      rw [List.dropLast_cons_of_ne_nil hq]
      exact .down hi hj (ih hne rfl)

section Parents

variable (m : Methods R) (E : List String)

mutual
/-- Under a stack of resources with the `parent()` of `Resource`, every resource of a walked
stack has it too: a class whose `parent()` is `None` has no iterators. -/
theorem walk_hasParent (p : Path) (stack : List R) (hs : ∀ a ∈ stack, m.hasParent a = true) :
    ∀ (t : Served R) (x : Node R × Bool), x ∈ walk m E p stack t →
      ∀ a ∈ x.1.stack, m.hasParent a = true
  | .node r runs, x, h => by
    simp only [walk, List.mem_cons] at h
    rcases h with rfl | h
    · exact hs
    · split at h
      · rcases List.mem_cons.mp h with rfl | h
        · exact hs
        · cases hr : m.hasParent r
          · rw [m.contains_eq_nil r hr] at h
            simp [walkRuns] at h
          · exact walkRuns_hasParent p r stack (fun a ha => (List.mem_append.mp ha).elim (hs a)
              fun ha => by rw [List.mem_singleton.mp ha]; exact hr) 0 _ runs x h
      · simp at h

/-- The same under the iterators of a resource. -/
theorem walkRuns_hasParent (p : Path) (r : R) (stack : List R)
    (hs : ∀ a ∈ stack ++ [r], m.hasParent a = true) :
    ∀ (i : Nat) (cs : List String) (runs : List (IterRun R)) (x : Node R × Bool),
      x ∈ walkRuns m E p r stack i cs runs → ∀ a ∈ x.1.stack, m.hasParent a = true
  | _, [], _, x, h => by simp [walkRuns] at h
  | _, _ :: _, [], x, h => by simp [walkRuns] at h
  | i, _ :: cs, .mk items _ :: runs, x, h => by
    rw [walkRuns, List.mem_append] at h
    rcases h with h | h
    · exact walkItems_hasParent p r stack hs i 0 items x h
    · exact walkRuns_hasParent p r stack hs (i + 1) cs runs x h

/-- The same under the items of an iterator of a resource. -/
theorem walkItems_hasParent (p : Path) (r : R) (stack : List R)
    (hs : ∀ a ∈ stack ++ [r], m.hasParent a = true) (i : Nat) :
    ∀ (j : Nat) (items : List (Served R)) (x : Node R × Bool),
      x ∈ walkItems m E p r stack i j items → ∀ a ∈ x.1.stack, m.hasParent a = true
  | _, [], x, h => by simp [walkItems] at h
  | j, c :: cs, x, h => by
    rw [walkItems, List.mem_append] at h
    rcases h with h | h
    · exact walk_hasParent (p ++ [(i, j)]) (stack ++ [r]) hs c x h
    · exact walkItems_hasParent p r stack hs i (j + 1) cs x h
end

end Parents

/-! ### The fold of the full name -/

section Fold

variable (m : Methods R)

/-- The left fold of `utils.to_full_resource_name`, from `acc`, over
`utils.to_type_name(type(a), key(a))` for the resources `a` of `path`, each under the stack
`above` followed by the resources of `path` before it. -/
def foldFullNameFrom (above : List R) (acc : String) : List R → Except Exn String
  | [] => .ok acc
  | a :: path => do
    let k ← m.key a above
    foldFullNameFrom (above ++ [a]) (m.toFullResourceName acc (m.toTypeName (m.type a) k)) path

/-- The left fold from `''` over the resources of `path`, the top first. -/
def foldFullName (path : List R) : Except Exn String := foldFullNameFrom m [] "" path

/-- The fold over one more resource adds its type name after the fold before it. -/
theorem foldFullNameFrom_append (above : List R) (acc : String) (path : List R) (r : R) :
    foldFullNameFrom m above acc (path ++ [r]) = (do
      let acc' ← foldFullNameFrom m above acc path
      let k ← m.key r (above ++ path)
      pure (m.toFullResourceName acc' (m.toTypeName (m.type r) k))) := by
  induction path generalizing above acc with
  | nil =>
    simp only [List.nil_append, foldFullNameFrom, List.append_nil]
    cases m.key r above <;> rfl
  | cons a path ih =>
    simp only [List.cons_append, foldFullNameFrom]
    cases m.key a above <;> simp [ih, List.append_assoc]

/-- Two computations that return the same value when either returns may run in either order
around a third. -/
theorem toOption_bind_comm {k : Except Exn String} {x y : Except Exn String}
    (hxy : x.toOption = y.toOption) (f : String → String → String) :
    (do let a ← k; let b ← x; pure (f b a) : Except Exn String).toOption =
      (do let b ← y; let a ← k; pure (f b a) : Except Exn String).toOption := by
  cases k <;> cases x <;> cases y <;> simp_all [Except.toOption]

/-- When no resource below the top of the path is a root and all of them have the `parent()` of
`Resource`, the full name is the fold, up to which exception is raised when a key raises. -/
theorem fullName_toOption_eq_fold (r : R) (stack : List R)
    (h : ∀ a ∈ (stack ++ [r]).tail, m.isRoot a = false ∧ m.hasParent a = true) :
    (m.fullName r stack).toOption = (foldFullName m (stack ++ [r])).toOption := by
  induction stack using List.reverseRecOn generalizing r with
  | nil =>
    rw [m.fullName_nil, foldFullName, List.nil_append, foldFullNameFrom]
    cases m.key r [] <;> rfl
  | append_singleton l a ih =>
    have htail : (l ++ [a] ++ [r]).tail = (l ++ [a]).tail ++ [r] :=
      List.tail_append_of_ne_nil (by simp)
    have hr := h r (by rw [htail]; exact List.mem_append_right _ (List.mem_singleton_self r))
    rw [m.fullName_append r a l hr.2 hr.1, foldFullName, foldFullNameFrom_append, List.nil_append]
    exact toOption_bind_comm (ih a fun b hb => h b (by rw [htail]; exact List.mem_append_left _ hb))
      _

end Fold

/-! ### The cache of `_full_resource_name` -/

section Cache

variable (m : Methods R)

/-- The name cached for the resource at `p` that `if not self._full_resource_name` lets through:
one that is not empty. -/
def cachedName (cache : Path → Option String) (p : Path) : Option String :=
  match cache p with
  | some v => if v = "" then none else some v
  | none => none

/-- `get_full_resource_name()` of `r` at `p`, under a stack written parent first, with the cache of
every resource by path: a cached name is returned as it is; otherwise the type name
`to_type_name(type(), key())`, after the parent's full name, got the same way, or after `''` for a
root or when `parent()` is `None`, is cached and returned. An exception caches nothing. -/
def cachedFullNameRev (p : Path) (r : R) (rs : List R) (cache : Path → Option String) :
    Except Exn (String × (Path → Option String)) :=
  match cachedName cache p with
  | some v => .ok (v, cache)
  | none => do
    let k ← m.key r rs.reverse
    let (parentName, cache') ← match rs with
      | [] => pure ("", cache)
      | q :: qs =>
        if m.isRoot r || !m.hasParent r then pure ("", cache)
        else cachedFullNameRev p.dropLast q qs cache
    let v := m.toFullResourceName parentName (m.toTypeName (m.type r) k)
    pure (v, Function.update cache' p (some v))

/-- `get_full_resource_name()` of `r` at `p` under `stack`, with the cache. -/
def cachedFullName (cache : Path → Option String) (p : Path) (r : R) (stack : List R) :
    Except Exn (String × (Path → Option String)) :=
  cachedFullNameRev m p r stack.reverse cache

/-- Calls of `get_full_resource_name()` on the resources `calls`, one after another, from `cache`:
what each call returns. -/
def cachedRun : (Path → Option String) → List (Node R) → List (Except Exn String)
  | _, [] => []
  | cache, n :: ns =>
    match cachedFullName m cache n.path n.res n.stack with
    | .ok (v, cache') => .ok v :: cachedRun cache' ns
    | .error e => .error e :: cachedRun cache ns

/-- Every name in the cache is the uncached full name of the resource at its path in `t`. -/
def CacheSound (t : Served R) (cache : Path → Option String) : Prop :=
  ∀ q v stack r, cache q = some v → t.YieldPath q (stack ++ [r]) → m.fullName r stack = .ok v

/-- An empty cache is sound. -/
theorem cacheSound_empty (t : Served R) : CacheSound m t fun _ => none := by
  intro _ _ _ _ h
  cases h

/-- Caching the full name of the resource at `p` keeps the cache sound. -/
theorem CacheSound.update {t : Served R} {cache : Path → Option String} (hc : CacheSound m t cache)
    {p : Path} {r : R} {stack : List R} {v : String} (hy : t.YieldPath p (stack ++ [r]))
    (hv : m.fullName r stack = .ok v) : CacheSound m t (Function.update cache p (some v)) := by
  intro q w stack' r' hq hy'
  by_cases hqp : q = p
  · subst hqp
    obtain ⟨rfl, hr⟩ := List.append_inj' (hy'.unique hy) rfl
    obtain rfl : r' = r := by simpa using hr
    simp_all
  · rw [Function.update_noteq hqp] at hq
    exact hc q w stack' r' hq hy'

/-- A name the cache lets through is in the cache. -/
theorem cache_eq_of_cachedName {cache : Path → Option String} {p : Path} {v : String}
    (h : cachedName cache p = some v) : cache p = some v := by
  unfold cachedName at h
  split at h
  · split at h <;> simp_all
  · cases h

/-- A name that a sound cache lets through is the uncached full name. -/
theorem fullNameRev_of_cachedName {t : Served R} {cache : Path → Option String}
    (hc : CacheSound m t cache) {p : Path} {r : R} {rs : List R}
    (hy : t.YieldPath p (rs.reverse ++ [r])) {v : String} (hn : cachedName cache p = some v) :
    m.fullNameRev r rs = .ok v := by
  simpa [Methods.fullName] using hc p v _ r (cache_eq_of_cachedName hn) hy

/-- A call on a resource of `t` returns its uncached full name, or raises what that raises, and
keeps the cache sound. -/
theorem cachedFullNameRev_spec {t : Served R} (p : Path) (r : R) (rs : List R)
    (cache : Path → Option String) (hc : CacheSound m t cache)
    (hy : t.YieldPath p (rs.reverse ++ [r])) :
    match cachedFullNameRev m p r rs cache with
    | .ok (v, cache') => m.fullNameRev r rs = .ok v ∧ CacheSound m t cache'
    | .error e => m.fullNameRev r rs = .error e := by
  induction rs generalizing p r cache with
  | nil =>
    rw [cachedFullNameRev]
    cases hn : cachedName cache p with
    | some v => exact ⟨fullNameRev_of_cachedName m hc hy hn, hc⟩
    | none =>
      cases hk : m.key r [] with
      | error e => simp_all [Methods.fullNameRev]
      | ok k =>
        simp only [List.reverse_nil, hk, except_ok_bind]
        exact ⟨by simp [Methods.fullNameRev, hk],
          hc.update m hy (by simp [Methods.fullName, Methods.fullNameRev, hk])⟩
  | cons q qs ih =>
    rw [cachedFullNameRev]
    cases hn : cachedName cache p with
    | some v => exact ⟨fullNameRev_of_cachedName m hc hy hn, hc⟩
    | none =>
      rw [List.reverse_cons] at hy ⊢
      have hy' : t.YieldPath p.dropLast (qs.reverse ++ [q]) := hy.dropLast (by simp)
      cases hk : m.key r (qs.reverse ++ [q]) with
      | error e => simp_all [Methods.fullNameRev]
      | ok k =>
        simp only [hk, except_ok_bind, Methods.fullNameRev, List.reverse_cons]
        by_cases hb : (m.isRoot r || !m.hasParent r) = true
        · simp only [hb, if_true]
          exact ⟨rfl, hc.update m hy (by simp [Methods.fullName, Methods.fullNameRev, hk, hb])⟩
        · simp only [Bool.not_eq_true] at hb
          simp only [hb, Bool.false_eq_true, if_false]
          have ih' := ih p.dropLast q cache hc hy'
          revert ih'
          cases cachedFullNameRev m p.dropLast q qs cache with
          | error e =>
            intro ih'
            simp [ih']
          | ok res =>
            obtain ⟨pn, c'⟩ := res
            rintro ⟨hpn, hc'⟩
            exact ⟨by simp [hpn],
              hc'.update m hy (by simp [Methods.fullName, Methods.fullNameRev, hk, hb, hpn])⟩

/-- Any sequence of calls on resources of `t`, from a sound cache, returns at every call the
uncached full name. -/
theorem cachedRun_eq {t : Served R} (cache : Path → Option String) (hc : CacheSound m t cache)
    (ns : List (Node R)) (hns : ∀ n ∈ ns, t.YieldPath n.path (n.stack ++ [n.res])) :
    cachedRun m cache ns = ns.map fun n => m.fullName n.res n.stack := by
  induction ns generalizing cache with
  | nil => rfl
  | cons n ns ih =>
    have hrest : ∀ n' ∈ ns, t.YieldPath n'.path (n'.stack ++ [n'.res]) := fun n' hn' =>
      hns n' (List.mem_cons_of_mem _ hn')
    have h := cachedFullNameRev_spec m n.path n.res n.stack.reverse cache hc
      (by simpa using hns n (List.mem_cons_self _ _))
    rw [cachedRun, cachedFullName]
    revert h
    cases cachedFullNameRev m n.path n.res n.stack.reverse cache with
    | error e =>
      intro h
      simp [Methods.fullName, h, ih cache hc hrest]
    | ok res =>
      obtain ⟨v, c'⟩ := res
      rintro ⟨hv, hc'⟩
      simp [Methods.fullName, hv, ih c' hc' hrest]

end Cache

/-! ### The stacks of a crawl -/

section Crawl

variable (m : Methods R) (V : Visitor R)

/-- A resource that a reachable state has entered sits at the end of its stack on its path down
the tree, and every resource of its stack has the `parent()` of `Resource`. -/
theorem enter_stack {t : Served R} {s : Pool R} (hs : Reachable m V t s) {p : Path} {r : R}
    {stack : List R} (he : .enter p r stack ∈ s.log) :
    t.YieldPath p (stack ++ [r]) ∧ ∀ a ∈ stack, m.hasParent a = true := by
  have hw := mem_walk_of_log m V hs (x := (⟨p, r, stack⟩, false))
    (List.mem_filterMap.mpr ⟨_, he, rfl⟩)
  obtain ⟨q, rs, hq, hrs, hy⟩ := mem_walk m V.excludedResources [] [] t _ hw
  simp only [List.nil_append] at hq hrs
  exact ⟨hq ▸ hrs ▸ hy, walk_hasParent m V.excludedResources [] [] (by simp) t _ hw⟩

/-- For every reachable state of a crawl in which no resource below the top is a root: a resource
that has been entered sits at the end of its stack on its path down the tree, and every resource
of its stack has the `parent()` of `Resource`; below the top, if it has that method too, its
`parent()` is the resource whose iterator yielded it, the top of its stack; and any sequence of
`get_full_resource_name()` calls on entered resources with that method, from empty caches, returns
at every call the left fold of `to_full_resource_name` from `''` over the path down to the
resource, or raises where the fold does. -/
theorem crawl_stack_full_name (t : Served R) (s : Pool R) (hs : Reachable m V t s)
    (hroot : ∀ q rs, t.YieldPath q rs → ∀ a ∈ rs.tail, m.isRoot a = false) :
    (∀ p r stack, .enter p r stack ∈ s.log →
      t.YieldPath p (stack ++ [r]) ∧ (∀ a ∈ stack, m.hasParent a = true) ∧
      (p ≠ [] → m.hasParent r = true → ∃ y rest, stack = rest ++ [y] ∧
        t.YieldPath p.dropLast stack ∧ m.parent r stack = some (y, rest))) ∧
    ∀ calls : List (Node R),
      (∀ n ∈ calls, .enter n.path n.res n.stack ∈ s.log ∧ m.hasParent n.res = true) →
      (cachedRun m (fun _ => none) calls).map Except.toOption =
        calls.map fun n => (foldFullName m (n.stack ++ [n.res])).toOption := by
  refine ⟨fun p r stack he => ?_, fun calls hcalls => ?_⟩
  · obtain ⟨hy, hpar⟩ := enter_stack m V hs he
    refine ⟨hy, hpar, fun hp hr => ?_⟩
    have hne : stack ≠ [] := fun h => hp (List.length_eq_zero.mp (by
      simpa [h] using hy.length_eq.symm))
    obtain ⟨rest, y, hst⟩ := List.eq_nil_or_concat stack |>.resolve_left hne
    rw [List.concat_eq_append] at hst
    subst hst
    have hroot_r : m.isRoot r = false := hroot _ _ hy r (by
      rw [List.tail_append_of_ne_nil hne]
      exact List.mem_append_right _ (List.mem_singleton_self r))
    exact ⟨y, rest, rfl, hy.dropLast hne, m.parent_append r y rest hr hroot_r⟩
  · rw [cachedRun_eq m _ (cacheSound_empty m t) calls fun n hn =>
      (enter_stack m V hs (hcalls n hn).1).1, List.map_map]
    refine List.map_congr_left fun n hn => ?_
    obtain ⟨hy, hpar⟩ := enter_stack m V hs (hcalls n hn).1
    refine fullName_toOption_eq_fold m n.res n.stack fun a ha => ⟨hroot _ _ hy a ha, ?_⟩
    rcases List.mem_append.mp (List.tail_subset _ ha) with ha | ha
    · exact hpar a ha
    · rw [List.mem_singleton.mp ha]
      exact (hcalls n hn).2

/-- Below the top of the sample crawl sits only its project, which is no root. -/
theorem sampleTree_no_root_below : ∀ q rs, sampleTree.YieldPath q rs → ∀ a ∈ rs.tail,
    (resourceMethods sampleExternals).isRoot a = false := by
  intro q rs hy a ha
  cases hy with
  | top => simp at ha
  | @down _ _ _ _ run c _ _ hi hj hy =>
    have hc : c = .node sampleTreeProject [] := by
      have hrun := List.getElem?_mem hi
      have hcm := List.getElem?_mem hj
      simp only [List.replicate, List.cons_append, List.nil_append, List.mem_cons,
        List.mem_singleton, List.not_mem_nil, or_false] at hrun
      rcases hrun with rfl | rfl | rfl | rfl | rfl | rfl | rfl | rfl | rfl <;>
        simp_all [IterRun.items]
    subst hc
    cases hy with
    | top => simp_all [sampleTreeProject, resourceMethods]
    | down hi => simp at hi

/-- The statement holds of a finished schedule of the sample crawl, which has entered the project
that the organization's iterator yielded. -/
theorem crawl_stack_full_name_sample :
    let m := resourceMethods sampleExternals
    ∃ s, Reachable m sampleVisitor sampleTree s ∧ s.Done ∧
      .enter [(8, 0)] sampleTreeProject [sampleOrg] ∈ s.log ∧
      (∀ q rs, sampleTree.YieldPath q rs → ∀ a ∈ rs.tail, m.isRoot a = false) ∧
      (∀ p r stack, .enter p r stack ∈ s.log →
        sampleTree.YieldPath p (stack ++ [r]) ∧ (∀ a ∈ stack, m.hasParent a = true) ∧
        (p ≠ [] → m.hasParent r = true → ∃ y rest, stack = rest ++ [y] ∧
          sampleTree.YieldPath p.dropLast stack ∧ m.parent r stack = some (y, rest))) ∧
      ∀ calls : List (Node Resource),
        (∀ n ∈ calls, .enter n.path n.res n.stack ∈ s.log ∧ m.hasParent n.res = true) →
        (cachedRun m (fun _ => none) calls).map Except.toOption =
          calls.map fun n => (foldFullName m (n.stack ++ [n.res])).toOption := by
  obtain ⟨s, hs, hd⟩ :=
    exists_done (start (resourceMethods sampleExternals) sampleVisitor sampleTree)
  refine ⟨s, hs, hd, enter_mem_log_of_walk _ _ sampleTree_quiet hs hd ?_, sampleTree_no_root_below,
    crawl_stack_full_name _ _ _ s hs sampleTree_no_root_below⟩
  have hp : (resourceMethods sampleExternals).passes sampleVisitor.excludedResources sampleOrg [] =
      true := by decide
  simp only [sampleTree, walk, hp, List.replicate, List.cons_append, List.nil_append, if_true]
  simp [walkRuns, walkRun, walkItems, walk, ResourceClass.organization, resourceMethods, sampleOrg]

end Crawl

/-- A curated role, as `IamOrganizationCuratedRoleIterator` yields it. -/
def sampleRole : Resource := ⟨.iamCuratedRole, [("name", .str "roles/viewer")], false, []⟩

/-- A root organization whose fourth iterator, `IamOrganizationCuratedRoleIterator`, yields one
curated role. -/
def roleTree : Served Resource :=
  .node sampleOrg (List.replicate 3 (.mk [] none) ++ [.mk [.node sampleRole []] none])

/-- Nothing raises in the crawl of `roleTree`. -/
theorem roleTree_quiet : Quiet (resourceMethods sampleExternals) sampleVisitor [] [] roleTree := by
  simp only [roleTree, Quiet, QuietRuns, QuietItems, List.replicate, List.cons_append,
    List.nil_append]
  refine ⟨by decide, fun _ => ⟨rfl, ?_, fun h => absurd rfl h⟩⟩
  simp only [true_and, and_true]
  exact ⟨fun h => absurd h (by decide), by decide, fun _ => ⟨rfl, fun h => absurd rfl h⟩⟩

/-- A finished crawl of `roleTree` has entered the curated role with the organization that yielded
it as its stack; the role is not a root, yet its `parent()` is `None`, not the organization. -/
theorem curated_role_entered_parent_none :
    ∃ s, Reachable (resourceMethods sampleExternals) sampleVisitor roleTree s ∧ s.Done ∧
      .enter [(3, 0)] sampleRole [sampleOrg] ∈ s.log ∧
      (resourceMethods sampleExternals).isRoot sampleRole = false ∧
      (resourceMethods sampleExternals).parent sampleRole [sampleOrg] = none := by
  obtain ⟨s, hs, hd⟩ :=
    exists_done (start (resourceMethods sampleExternals) sampleVisitor roleTree)
  refine ⟨s, hs, hd, enter_mem_log_of_walk _ _ roleTree_quiet hs hd ?_, rfl, rfl⟩
  have hp : (resourceMethods sampleExternals).passes sampleVisitor.excludedResources sampleOrg [] =
      true := by decide
  simp only [roleTree, walk, hp, List.replicate, List.cons_append, List.nil_append, if_true]
  simp [walkRuns, walkRun, walkItems, walk, ResourceClass.organization, resourceMethods, sampleOrg]

end InventoryCrawler
