import InventoryCrawler.Catalog

/-!
# The served tree is what the iterators generate

The crawl of `Pool.lean` runs over a `Served` tree: the client's answers, fixed in advance. Here
that tree is tied to the iterator classes of `Catalog.lean`. `Generated x cv client stack t` says
that at every resource of `t`, each run the tree holds is what the `iter()` of the class its
`contains` list names there produced from `client`, on the resource under its stack with the
attributes that some calls of its getters left on it, from those `__init__` leaves (`attrsOf`: the
side-band fetches of `visitor.visit` and the checks of the iterators before it); and that the
trees of what it yielded are generated the same way, one level down.

`Generated.descends` carries this down every path of the tree: each resource on the path was
yielded by an iterator of the one above it, run under that one's stack (`Descends`). With
`enter_stack`, every resource a crawl enters has such a chain from the top
(`entered_resources_descend`). On a chain from a class a crawl starts from (`Chain`), facts of the
tables, checked by `decide`, say which class sits above which (`Chain.climb`): a G Suite resource
below an organization with a directory customer id, a Kubernetes pod below its namespace, cluster
and project, and nothing gated by `enumerable()` right below a project that is not active.
-/

namespace InventoryCrawler

/-- The iterator class that a `contains` list names `n`. -/
def iteratorClass? (n : String) : Option IteratorClass :=
  iteratorTable.find? fun e => e.name = n

/-- The class found for a name is in the table, under that name. -/
theorem iteratorClass?_spec {n : String} {e : IteratorClass} (h : iteratorClass? n = some e) :
    e ∈ iteratorTable ∧ e.name = n := by
  unfold iteratorClass? at h
  exact ⟨List.mem_of_find?_eq_some h, by simpa using List.find?_some h⟩

/-- The classes a crawl starts from: the composite root, and those `from_root_id` makes. -/
def rootClasses : List ResourceClass := [.compositeRoot, .organization, .folder, .project]

/-- The classes the iterators of the table yield. -/
def yieldedClasses : List ResourceClass := iteratorTable.flatMap IteratorClass.yields

/-- The classes a crawl from one of `rootClasses` can meet. -/
def crawlClasses : List ResourceClass := rootClasses ++ yieldedClasses

/-- The attributes `__init__` leaves on a resource: a project's `_enabled_service_names` is
`None`, and no cache is set. -/
def Resource.initAttrs (r : Resource) : Attrs :=
  if r.cls.className = "ResourceManagerProject" then ResourceManagerProject.initAttrs
  else fun _ => none

/-- The attributes of `r`, whose `accept` stored `stack`, after some calls of its getters. -/
def attrsOf (x : Externals) (cv : Converters) (r : Resource) (stack : List Resource)
    (calls : List Call) : Attrs :=
  attrsAfter (getters x cv r stack) r.initAttrs calls

section Chains

variable {x : Externals} {cv : Converters} {client : Client}

/-- `c` is one of the resources that an iterator of `r`'s class yields, run on `r` under `stack`
with the attributes some calls of `r`'s getters left and the answers of `client`. -/
def YieldedBy (x : Externals) (cv : Converters) (client : Client) (stack : List Resource)
    (r c : Resource) : Prop :=
  ∃ n ∈ r.cls.contains, ∃ e, iteratorClass? n = some e ∧
    ∃ calls, c ∈ (e.iter x client r stack (attrsOf x cv r stack calls)).1

/-- The resources `rs`, written top first below the resources `above`: each one after the first
was yielded by the one before it, under the stack above that one. -/
def Descends (x : Externals) (cv : Converters) (client : Client) (above rs : List Resource) :
    Prop :=
  ∀ i p c, rs[i]? = some p → rs[i + 1]? = some c → YieldedBy x cv client (above ++ rs.take i) p c

/-- `t` is what the iterators generate from `client` below the resources `stack`: at its top `r`,
the `i`-th run is what the `i`-th class of `r`'s `contains` list produced, run on `r` under
`stack` with the attributes some calls of `r`'s getters left; and the tree of every resource
yielded is generated the same way, below `stack ++ [r]`. -/
inductive Generated (x : Externals) (cv : Converters) (client : Client) :
    List Resource → Served Resource → Prop
  | node {stack : List Resource} {r : Resource} {runs : List (IterRun Resource)}
      (hruns : ∀ (i : Nat) (run : IterRun Resource), runs[i]? = some run →
        ∃ n, r.cls.contains[i]? = some n ∧ ∃ e, iteratorClass? n = some e ∧
          ∃ calls, run.Produces (e.iter x client r stack (attrsOf x cv r stack calls)))
      (hitems : ∀ run ∈ runs, ∀ c ∈ run.items, Generated x cv client (stack ++ [r]) c) :
      Generated x cv client stack (.node r runs)

/-- What a run holds was yielded. -/
theorem IterRun.Produces.res_mem {run : IterRun Resource} {out : List Resource × Option Exn}
    (h : run.Produces out) {c : Served Resource} (hc : c ∈ run.items) : c.res ∈ out.1 := by
  obtain ⟨items, raises⟩ := run
  exact h.1 ▸ List.mem_map_of_mem _ hc

/-- What an iterator yields is no root, and of a class that some iterator yields. -/
theorem YieldedBy.yielded {stack : List Resource} {r c : Resource}
    (h : YieldedBy x cv client stack r c) : c.root = false ∧ c.cls ∈ yieldedClasses := by
  obtain ⟨n, -, e, he, calls, hc⟩ := h
  obtain ⟨hroot, hcls⟩ := e.iter_yields x client r stack _ c hc
  exact ⟨hroot, List.mem_flatMap.2 ⟨e, (iteratorClass?_spec he).1, hcls⟩⟩

/-- One resource descends from anything above it. -/
theorem descends_singleton (above : List Resource) (r : Resource) :
    Descends x cv client above [r] := by
  intro i p c _ hc
  simp at hc

/-- A resource yielded by `r`, with what descends from it, descends from `r`. -/
theorem Descends.cons {above rs : List Resource} {r c : Resource}
    (h₁ : YieldedBy x cv client above r c) (h₂ : Descends x cv client (above ++ [r]) (c :: rs)) :
    Descends x cv client above (r :: c :: rs)
  | 0, p, c', hp, hc => by
    simp only [List.getElem?_cons_zero, List.getElem?_cons_succ, Option.some.injEq] at hp hc
    subst hp hc
    simpa using h₁
  | i + 1, p, c', hp, hc => by
    rw [List.getElem?_cons_succ] at hp hc
    simpa using h₂ i p c' hp hc

/-- The step at the bottom of a chain. -/
theorem Descends.last {above pre : List Resource} {p c : Resource}
    (h : Descends x cv client above (pre ++ [p, c])) : YieldedBy x cv client (above ++ pre) p c := by
  simpa [List.take_left'] using h pre.length p c
    (by rw [List.getElem?_append_right (Nat.le_refl _)]; simp)
    (by rw [List.getElem?_append_right (by omega)]; simp)

/-- The first resources of a descending list descend too. -/
theorem Descends.prefix {above rs rs' : List Resource} (h : Descends x cv client above (rs ++ rs')) :
    Descends x cv client above rs := by
  intro i p c hp hc
  have hi : i + 1 < rs.length := (List.getElem?_eq_some_iff.1 hc).1
  have := h i p c (by rwa [List.getElem?_append_left (by omega)])
    (by rwa [List.getElem?_append_left hi])
  rwa [List.take_append_of_le_length (by omega)] at this

/-- Below the top of a chain, every resource was yielded, so it is no root. -/
theorem Descends.yielded {above rs : List Resource} (h : Descends x cv client above rs)
    {c : Resource} (hc : c ∈ rs.tail) : c.root = false ∧ c.cls ∈ yieldedClasses := by
  obtain ⟨i, hi⟩ := List.mem_iff_getElem?.1 hc
  rw [List.getElem?_tail] at hi
  have hlt : i < rs.length := by
    have := (List.getElem?_eq_some_iff.1 hi).1
    omega
  exact (h i _ c (List.getElem?_eq_getElem hlt) hi).yielded

/-- Along every path down a generated tree, each resource was yielded by an iterator of the one
above it. -/
theorem Generated.descends {above : List Resource} {t : Served Resource}
    (h : Generated x cv client above t) {q : Path} {rs : List Resource} (hy : t.YieldPath q rs) :
    Descends x cv client above rs := by
  induction hy generalizing above with
  | top r runs => exact descends_singleton above r
  | @down r runs i j run c q rs hi hj hy ih =>
    cases h with
    | node hruns hitems =>
      obtain ⟨n, hn, e, he, calls, hprod⟩ := hruns i run hi
      have hc := List.getElem?_mem hj
      obtain ⟨rs, rfl⟩ := List.head?_eq_some_iff.1 hy.head?
      exact .cons ⟨n, List.getElem?_mem hn, e, he, calls, hprod.res_mem hc⟩
        (ih (hitems run (List.getElem?_mem hi) c hc))

/-- The iterator classes that a `contains` list names, up to the first name the table lacks. -/
def resolved : List String → List IteratorClass
  | [] => []
  | n :: ns =>
    match iteratorClass? n with
    | some e => e :: resolved ns
    | none => []

/-- The `i`-th class the names resolve to is the class of some `i`-th name. -/
theorem getElem?_resolved : ∀ {ns : List String} {i : Nat} {e : IteratorClass},
    (resolved ns)[i]? = some e → ∃ n, ns[i]? = some n ∧ iteratorClass? n = some e
  | [], _, _, h => by simp [resolved] at h
  | n :: ns, i, e, h => by
    unfold resolved at h
    split at h
    · rcases i with _ | i
      · simp only [List.getElem?_cons_zero, Option.some.injEq] at h
        subst h
        exact ⟨n, List.getElem?_cons_zero, ‹_›⟩
      · simpa using getElem?_resolved (by simpa using h)
    · simp at h

/-- The tree the iterators generate from `client` below `stack`, to depth `fuel`: at `r`, each
class of its `contains` list runs on `r` under `stack`, with the attributes that the getter calls
`calls stack r` gives for that class left, and each resource it yields gets its own tree one level
down. -/
def generate (x : Externals) (cv : Converters) (client : Client)
    (calls : List Resource → Resource → String → List Call) :
    Nat → List Resource → Resource → Served Resource
  | 0, _, r => .node r []
  | fuel + 1, stack, r => .node r ((resolved r.cls.contains).map fun e =>
      .mk ((e.iter x client r stack (attrsOf x cv r stack (calls stack r e.name))).1.map
          (generate x cv client calls fuel (stack ++ [r])))
        (e.iter x client r stack (attrsOf x cv r stack (calls stack r e.name))).2)

/-- The crawl tree generated for a resource has that resource at its top. -/
@[simp] theorem generate_res (calls : List Resource → Resource → String → List Call) (fuel : Nat)
    (stack : List Resource) (r : Resource) : (generate x cv client calls fuel stack r).res = r := by
  cases fuel <;> rfl

/-- What the iterators generate from any client, to any depth, is a generated tree. -/
theorem generate_generated (calls : List Resource → Resource → String → List Call) :
    ∀ (fuel : Nat) (stack : List Resource) (r : Resource),
      Generated x cv client stack (generate x cv client calls fuel stack r)
  | 0, _, _ => .node (fun _ _ h => by simp [generate] at h) fun _ h => by simp [generate] at h
  | fuel + 1, stack, r => by
    refine .node (fun i run hi => ?_) fun run hrun c hc => ?_
    · simp only [generate, List.getElem?_map, Option.map_eq_some'] at hi
      obtain ⟨e, he, rfl⟩ := hi
      obtain ⟨n, hn, hen⟩ := getElem?_resolved he
      exact ⟨n, hn, e, hen, calls stack r e.name, by
        simp [IterRun.Produces, Function.comp_def]⟩
    · simp only [generate, List.mem_map] at hrun
      obtain ⟨e, -, rfl⟩ := hrun
      obtain ⟨c, -, rfl⟩ := List.mem_map.1 hc
      exact generate_generated calls fuel (stack ++ [r]) c

/-- The `j`-th resource that the `i`-th iterator of `r` yields is crawled within `r`'s crawl of the
generated tree, when `r` passes the exclusion check, its visit returns and its `repr` computes,
the resources that iterator yielded before are dispatched to the pool, and the resource's own
dispatch does not raise. -/
theorem trace_generate_subset (calls : List Resource → Resource → String → List Call)
    (V : Visitor Resource) {fuel : Nat} {p : Path} {stack : List Resource} {r : Resource}
    (hpass : (resourceMethods x).passes V.excludedResources r stack = true)
    (hv : (V.visit r).2 = none) {text : String}
    (hrepr : (resourceMethods x).repr r stack = .ok text) {i : Nat} {e : IteratorClass}
    (he : (resolved r.cls.contains)[i]? = some e) {j : Nat} {c : Resource}
    (hc : (e.iter x client r stack (attrsOf x cv r stack (calls stack r e.name))).1[j]? = some c)
    (hbefore : ∀ c' ∈ (e.iter x client r stack (attrsOf x cv r stack (calls stack r e.name))).1.take j,
      c'.cls.dispatches = true ∧ V.dispatch c' = .defer)
    (hdisp : c.cls.dispatches = true → ∀ err, V.dispatch c ≠ .raise err) :
    ∀ y ∈ trace (accept (resourceMethods x) V (p ++ [(i, j)])
        (generate x cv client calls fuel (stack ++ [r]) c) (stack ++ [r])).acts,
      y ∈ trace (accept (resourceMethods x) V p
        (generate x cv client calls (fuel + 1) stack r) stack).acts := by
  obtain ⟨n, hn, -⟩ := getElem?_resolved he
  have hi : i < r.cls.contains.length := (List.getElem?_eq_some_iff.1 hn).1
  let out := e.iter x client r stack (attrsOf x cv r stack (calls stack r e.name))
  have hrun : (resolved r.cls.contains |>.map fun e =>
      IterRun.mk ((e.iter x client r stack (attrsOf x cv r stack (calls stack r e.name))).1.map
        (generate x cv client calls fuel (stack ++ [r])))
        (e.iter x client r stack (attrsOf x cv r stack (calls stack r e.name))).2)[i]? =
      some (.mk (out.1.map (generate x cv client calls fuel (stack ++ [r]))) out.2) := by
    simp [List.getElem?_map, he, out]
  refine trace_item_subset (resourceMethods x) V hpass hv hrepr hi hrun
    (by simp [List.getElem?_map, hc, out]) ?_ (by simpa using hdisp)
  intro j' hj' c' hc'
  obtain ⟨d, hd, rfl⟩ := Option.map_eq_some'.1 (by simpa [List.getElem?_map] using hc')
  obtain ⟨hs, hdef⟩ := hbefore d (List.getElem?_mem ((List.getElem?_take_of_lt hj').trans hd))
  exact yieldOne_res_of_defer _ V (by simpa [resourceMethods] using hs) (by simpa using hdef)

/-- A stack from the top of a crawl, top first: the top is of a class a crawl starts from, and
each resource below it was yielded by the one above it. -/
structure Chain (x : Externals) (cv : Converters) (client : Client) (rs : List Resource) :
    Prop where
  top : ∀ a ∈ rs.head?, a.cls ∈ rootClasses
  descends : Descends x cv client [] rs

/-- The paths down a generated tree whose top is of a class a crawl starts from are chains. -/
theorem Generated.chain {t : Served Resource} (h : Generated x cv client [] t)
    (htop : t.res.cls ∈ rootClasses) {q : Path} {rs : List Resource} (hy : t.YieldPath q rs) :
    Chain x cv client rs where
  top a ha := by
    rw [hy.head?, Option.mem_some_iff] at ha
    exact ha ▸ htop
  descends := h.descends hy

/-- The upper part of a chain is a chain. -/
theorem Chain.prefix {rs rs' : List Resource} (h : Chain x cv client (rs ++ rs'))
    (hne : rs ≠ []) : Chain x cv client rs where
  top a ha := by
    obtain ⟨r, rs, rfl⟩ := List.exists_cons_of_ne_nil hne
    exact h.top a ha
  descends := h.descends.prefix

/-- Every resource of a chain is of a class a crawl meets. -/
theorem Chain.mem_crawlClasses {rs : List Resource} (h : Chain x cv client rs) :
    ∀ a ∈ rs, a.cls ∈ crawlClasses := by
  rcases rs with _ | ⟨r, rs⟩
  · simp
  · intro a ha
    rcases List.mem_cons.1 ha with rfl | ha
    · exact List.mem_append_left _ (h.top a rfl)
    · exact List.mem_append_right _ (h.descends.yielded ha).2

end Chains

/-! ### Which class sits above which -/

/-- Resources of the classes named `ks` are yielded only by the iterator classes named `ns`, and,
among the classes a crawl meets, only the class named `k'` contains those. -/
def YieldedOnly (ks ns : List String) (k' : String) : Prop :=
  ∀ e ∈ iteratorTable, ∀ c ∈ e.yields, c.className ∈ ks →
    e.name ∈ ns ∧ ∀ p ∈ crawlClasses, e.name ∈ p.contains → p.className = k'

/-- `YieldedOnly` is checked over the finite tables. -/
instance (ks ns : List String) (k' : String) : Decidable (YieldedOnly ks ns k') :=
  inferInstanceAs (Decidable (∀ e ∈ iteratorTable, ∀ c ∈ e.yields, c.className ∈ ks →
    e.name ∈ ns ∧ ∀ p ∈ crawlClasses, e.name ∈ p.contains → p.className = k'))

section Climb

variable {x : Externals} {cv : Converters} {client : Client}

/-- What yields a resource of a class named in `ks` is of the class named `k'`. -/
theorem YieldedBy.className_above {stack : List Resource} {p c : Resource} {ks ns : List String}
    {k' : String} (hk : YieldedOnly ks ns k') (h : YieldedBy x cv client stack p c)
    (hp : p.cls ∈ crawlClasses) (hc : c.cls.className ∈ ks) : p.cls.className = k' := by
  obtain ⟨n, hn, e, he, calls, hce⟩ := h
  obtain ⟨hmem, rfl⟩ := iteratorClass?_spec he
  exact (hk e hmem c.cls (e.iter_yields x client p stack _ c hce).2 hc).2 p.cls hp hn

/-- A resource of a class named in `ks` was yielded by an iterator named in `ns`. -/
theorem YieldedBy.by_name {stack : List Resource} {p c : Resource} {ks ns : List String}
    {k' : String} (hk : YieldedOnly ks ns k') (h : YieldedBy x cv client stack p c)
    (hc : c.cls.className ∈ ks) :
    ∃ n ∈ ns, ∃ e, iteratorClass? n = some e ∧
      ∃ calls, c ∈ (e.iter x client p stack (attrsOf x cv p stack calls)).1 := by
  obtain ⟨n, -, e, he, calls, hce⟩ := h
  obtain ⟨hmem, rfl⟩ := iteratorClass?_spec he
  exact ⟨e.name, (hk e hmem c.cls (e.iter_yields x client p stack _ c hce).2 hc).1, e, he, calls,
    hce⟩

/-- A resource of a class named in `ks`, none of them a class a crawl starts from, is not the top
of its chain: above it sits a resource of the class named `k'`, whose iterator yielded it. -/
theorem Chain.climb {rs : List Resource} {c : Resource} {ks ns : List String} {k' : String}
    (h : Chain x cv client (rs ++ [c])) (hk : YieldedOnly ks ns k') (hc : c.cls.className ∈ ks)
    (hroot : ∀ a ∈ rootClasses, a.className ∉ ks) :
    ∃ pre p, rs = pre ++ [p] ∧ p.cls.className = k' ∧ YieldedBy x cv client pre p c ∧
      Chain x cv client (pre ++ [p]) := by
  rcases List.eq_nil_or_concat rs with rfl | ⟨pre, p, rfl⟩
  · exact absurd hc (hroot _ (h.top c rfl))
  · rw [List.concat_eq_append] at h ⊢
    have hy : YieldedBy x cv client pre p c := by
      simpa using (show Descends x cv client [] (pre ++ [p, c]) by simpa using h.descends).last
    have hpre := h.prefix (by simp)
    exact ⟨pre, p, rfl, hy.className_above hk (hpre.mem_crawlClasses p (by simp)) hc, hy, hpre⟩

end Climb

end InventoryCrawler
