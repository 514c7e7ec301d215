import InventoryCrawler.Getters

/-!
# The caches of the side-band getters

`runCalls` runs a sequence of calls of a resource's getters, each on the attributes the one before
left. No getter ever removes an attribute (`keepsAttrs_getters`). So a cache that is set stays
set, and a getter whose cache is set never calls its client again (`runCalls_not_called`). The
client method of a getter is therefore invoked at most once, unless a call that invoked it raised
(`getter_client_invoked_at_most_once`). A dataset's getter that had a response sets both caches
(`dataset_caches_set`), so after it neither client method is invoked again. A client exception
that the getter does not catch is not stored, and the next call invokes the client again
(`uncaught_client_error_refetches`).

`KubernetesCluster.get_kubernetes_service_config` has a body of its own: its arguments include
`zone()` and `location()`, and it has a clause for `ValueError` too. The `IndexError` that `zone()`
or `location()` raises on a `selfLink` whose first `zones` or `locations` part is the last is
caught by neither clause, so the getter raises it, stores nothing, and raises it again on every
later call (`cluster_self_link_raises_index_error`).
-/

namespace InventoryCrawler

/-- A call of a getter: the method, and what its client method answers if it is invoked. -/
structure Call where
  method : String
  answer : Except Exn Value

/-- The calls, one after another, each on the attributes the one before left: what each did. -/
def runCalls (g : String → Getter) : Attrs → List Call → List GetterRun
  | _, [] => []
  | a, c :: cs => g c.method a c.answer :: runCalls g (g c.method a c.answer).attrs cs

/-- The attributes after the calls. -/
def attrsAfter (g : String → Getter) : Attrs → List Call → Attrs
  | a, [] => a
  | a, c :: cs => attrsAfter g (g c.method a c.answer).attrs cs

/-- Running two lists of calls one after the other answers what each answers, the second from
the attributes the first left. -/
theorem runCalls_append (g : String → Getter) (a : Attrs) (pre post : List Call) :
    runCalls g a (pre ++ post) = runCalls g a pre ++ runCalls g (attrsAfter g a pre) post := by
  induction pre generalizing a with
  | nil => rfl
  | cons c cs ih => simp [runCalls, attrsAfter, ih]

/-- Every call gets one answer. -/
theorem length_runCalls (g : String → Getter) (a : Attrs) (calls : List Call) :
    (runCalls g a calls).length = calls.length := by
  induction calls generalizing a <;> simp [runCalls, *]

/-- The number of calls of `method` that invoked its client method. -/
def invocations (g : String → Getter) (a : Attrs) (calls : List Call) (method : String) : Nat :=
  ((calls.zip (runCalls g a calls)).filter fun p => p.1.method == method && p.2.called).length

/-- Every call of `method` that invoked its client method returned. -/
def InvokedCallsReturn (g : String → Getter) (a : Attrs) (calls : List Call) (method : String) :
    Prop :=
  ∀ p ∈ calls.zip (runCalls g a calls), p.1.method = method → p.2.called = true → p.2.res.isOk = true

/-! ### No getter removes an attribute -/

/-- A getter keeps every attribute that is set. -/
def KeepsAttrs (g : Getter) : Prop := ∀ a answer k, (a k).isSome → ((g a answer).attrs k).isSome

/-- Writing a set value keeps every set attribute set. -/
theorem isSome_update {a : Attrs} {k k' : String} {v : Option Value} (hv : v.isSome)
    (ha : (a k).isSome) : (Function.update a k' v k).isSome := by
  rw [Function.update_apply]
  split <;> assumption

/-- The attribute just written is set. -/
theorem isSome_update_self (a : Attrs) (k : String) (v : Value) :
    (Function.update a k (some v) k).isSome := by
  simp

/-- `_set_cache` keeps every set attribute set. -/
theorem isSome_setCache (fieldName : String) (value : Value) {a : Attrs} {k : String}
    (ha : (a k).isSome) : (setCache fieldName value a k).isSome := by
  unfold setCache
  rcases a (cacheAttr fieldName) with _ | v
  · exact isSome_update rfl ha
  · cases v <;> first | exact isSome_update rfl ha | exact ha

/-- The `cached` decorator keeps set attributes set when its body does. -/
theorem keepsAttrs_cached (fieldName : String) {f : Getter} (hf : KeepsAttrs f) :
    KeepsAttrs (cached fieldName f) := by
  intro a answer k ha
  unfold cached
  split
  · exact ha
  · split
    · rename_i heq
      exact isSome_update rfl (by simpa [heq] using hf a answer k ha)
    · exact hf a answer k ha

/-- A body that asks the client keeps set attributes set when what it does with the answer does. -/
theorem keepsAttrs_clientBody {α : Type} (args : Except Exn α) (message : Exn → Except Exn String)
    {post : α → Value → Attrs → Value × Attrs}
    (hpost : ∀ v data a k, (a k).isSome → ((post v data a).2 k).isSome) :
    KeepsAttrs (clientBody args message post) := by
  intro a answer k ha
  unfold clientBody
  split
  · exact ha
  · split
    · exact hpost _ _ _ _ ha
    · split
      · split <;> exact ha
      · exact ha

/-- Keeping the response leaves the attributes as they are. -/
theorem keepsAttrs_keepResponse {α : Type} (v : α) (data : Value) (a : Attrs) (k : String)
    (ha : (a k).isSome) : ((keepResponse v data a).2 k).isSome := ha

/-- `get_enabled_apis` keeps set attributes set. -/
theorem keepsAttrs_getEnabledApis (x : Externals) (r : Resource) (stack : List Resource) :
    KeepsAttrs (ResourceManagerProject.getEnabledApis x r stack) := by
  intro a answer k ha
  unfold ResourceManagerProject.getEnabledApis
  split
  · exact ha
  · split
    · exact isSome_update rfl ha
    · exact ha

/-- A getter behind the check `enumerable()` keeps set attributes set when the getter does. -/
theorem keepsAttrs_whenEnumerable (r : Resource) {body : Getter} (hb : KeepsAttrs body) :
    KeepsAttrs (ResourceManagerProject.whenEnumerable r body) := by
  intro a answer k ha
  unfold ResourceManagerProject.whenEnumerable
  split
  · exact ha
  · exact hb a answer k ha
  · exact ha

/-- The handler of a cluster's getter writes no attribute. -/
theorem serviceConfigHandler_attrs (r : Resource) (a : Attrs) (called : Bool) (e : Exn) :
    (KubernetesCluster.serviceConfigHandler r a called e).attrs = a := by
  unfold KubernetesCluster.serviceConfigHandler
  split
  · rfl
  · split
    · split <;> rfl
    · rfl

/-- A cluster's getter writes no attribute. -/
theorem getKubernetesServiceConfig_attrs (x : Externals) (r : Resource) (stack : List Resource)
    (a : Attrs) (answer : Except Exn Value) :
    (KubernetesCluster.getKubernetesServiceConfig x r stack a answer).attrs = a := by
  unfold KubernetesCluster.getKubernetesServiceConfig
  split
  · exact serviceConfigHandler_attrs r a false _
  · split
    · rfl
    · exact serviceConfigHandler_attrs r a true _

/-- Every getter body keeps set attributes set. -/
theorem keepsAttrs_getterBody (x : Externals) (r : Resource) (stack : List Resource)
    (cv : Converters) (method : String) : KeepsAttrs (getterBody x r stack cv method) := by
  have hover : ∀ e ∈ getterOverrides x r stack cv, KeepsAttrs e.2 := by
    have hname : ∀ msg, KeepsAttrs (clientBody (r.data.getItem "name") msg keepResponse) :=
      fun msg => keepsAttrs_clientBody _ msg keepsAttrs_keepResponse
    have hnumber : ∀ msg, KeepsAttrs (ResourceManagerProject.whenEnumerable r
        (clientBody (r.data.getItem "projectNumber") msg keepResponse)) :=
      fun msg => keepsAttrs_whenEnumerable r (keepsAttrs_clientBody _ msg keepsAttrs_keepResponse)
    have hdataset := keepsAttrs_clientBody (BigqueryDataSet.callArgs x r stack)
    have hfamily : ∀ args text label, KeepsAttrs (parentKeyGetter x r stack args text label) :=
      fun args text label a answer _ ha => by rwa [parentKeyGetter_attrs]
    refine List.forall_iff_forall_mem.1 ?_
    dsimp only [getterOverrides, List.Forall]
    exact ⟨hname _, hname _, hname _, hname _, hname _, hnumber _,
      hname _, hnumber _, keepsAttrs_getEnabledApis x r stack,
      hdataset _ fun _ _ _ _ ha => isSome_setCache _ _ ha,
      hdataset _ fun _ _ _ _ ha => isSome_setCache _ _ ha, hname _,
      fun a answer _ ha => by rwa [getKubernetesServiceConfig_attrs],
      fun a answer _ ha => by rwa [DataprocCluster.getIamPolicy_attrs],
      hfamily _ _ _, hfamily _ _ _, hfamily _ _ _, hfamily _ _ _, hfamily _ _ _, hfamily _ _ _,
      fun a answer _ ha => by rwa [StorageBucket.getGcsPolicy_attrs]⟩
  unfold getterBody
  cases h : (getterOverrides x r stack cv).find? fun e => e.1 == (r.cls.className, method) with
  | none => exact fun _ _ _ ha => ha
  | some e => exact hover e (List.mem_of_find?_eq_some h)

/-- No getter of a resource removes an attribute. -/
theorem keepsAttrs_getters (x : Externals) (cv : Converters) (r : Resource) (stack : List Resource)
    (method : String) : KeepsAttrs (getters x cv r stack method) := by
  unfold getters
  split
  · exact keepsAttrs_cached _ (keepsAttrs_getterBody x r stack cv method)
  · exact fun _ _ _ ha => ha

/-! ### What `cached` does -/

section Cached

variable {fieldName : String} {f : Getter} {a : Attrs} {answer : Except Exn Value}

/-- A set cache answers without invoking the client. -/
theorem cached_called_of_isSome (h : (a (cacheAttr fieldName)).isSome) :
    (cached fieldName f a answer).called = false := by
  obtain ⟨v, hv⟩ := Option.isSome_iff_exists.mp h
  simp [cached, hv]

/-- A call that invoked the client found the cache unset. -/
theorem cache_none_of_called (h : (cached fieldName f a answer).called = true) :
    a (cacheAttr fieldName) = none := by
  cases ha : a (cacheAttr fieldName) with
  | none => rfl
  | some v => simp [cached, ha] at h

/-- On an unset cache, the call invokes the client when the body does. -/
theorem cached_called_of_none (h : a (cacheAttr fieldName) = none) :
    (cached fieldName f a answer).called = (f a answer).called := by
  rcases hf : f a answer with ⟨called, e | v, a', ws⟩ <;> simp [cached, h, hf]

/-- On an unset cache, the body runs, and the value it returns is stored. -/
theorem cached_of_ok (h : a (cacheAttr fieldName) = none) {called : Bool} {v : Value} {a' : Attrs}
    {ws : List String} (hf : f a answer = ⟨called, .ok v, a', ws⟩) :
    cached fieldName f a answer =
      ⟨called, .ok v, Function.update a' (cacheAttr fieldName) (some v), ws⟩ := by
  simp [cached, h, hf]

/-- A call that returned leaves its cache set. -/
theorem isSome_cached_of_isOk (h : (cached fieldName f a answer).res.isOk = true) :
    ((cached fieldName f a answer).attrs (cacheAttr fieldName)).isSome := by
  cases ha : a (cacheAttr fieldName) with
  | some v => simp [cached, ha]
  | none =>
    rcases hf : f a answer with ⟨called, e | v, a', ws⟩
    · simp [cached, ha, hf, Except.isOk, Except.toBool] at h
    · simp [cached, ha, hf]

end Cached

/-- A cache that `_set_cache` wrote is set. -/
theorem isSome_setCache_self (fieldName : String) (value : Value) (a : Attrs) :
    (setCache fieldName value a (cacheAttr fieldName)).isSome := by
  unfold setCache
  rcases h : a (cacheAttr fieldName) with _ | v
  · simp
  · cases v <;> simp [h]

/-- A client-shaped body that invoked its client on a response computed its arguments, returned
the value `post` gives, and left the attributes `post` gives. -/
theorem clientBody_of_called {α : Type} {args : Except Exn α} {message : Exn → Except Exn String}
    {post : α → Value → Attrs → Value × Attrs} {a : Attrs} {data : Value}
    (hc : (clientBody args message post a (.ok data)).called = true) :
    ∃ v, clientBody args message post a (.ok data) =
      ⟨true, .ok (post v data a).1, (post v data a).2, []⟩ := by
  cases args with
  | error e => simp [clientBody] at hc
  | ok v => exact ⟨v, rfl⟩

/-! ### Runs of calls -/

section Runs

variable {g : String → Getter}

/-- Once the cache of a field is set, no later call of a getter cached under that field invokes
its client method. -/
theorem runCalls_not_called (hkeep : ∀ method, KeepsAttrs (g method)) {field : String} :
    ∀ {a : Attrs} (calls : List Call), (a (cacheAttr field)).isSome →
      ∀ p ∈ calls.zip (runCalls g a calls), (∃ body, g p.1.method = cached field body) →
        p.2.called = false
  | _, [], _, _, hp, _ => by simp [runCalls] at hp
  | a, c :: cs, ha, p, hp, hg => by
    rw [runCalls, List.zip_cons_cons, List.mem_cons] at hp
    rcases hp with rfl | hp
    · obtain ⟨body, hb⟩ := hg
      simp only [hb]
      exact cached_called_of_isSome ha
    · exact runCalls_not_called hkeep cs (hkeep c.method a c.answer _ ha) p hp hg

/-- A getter cached under `field` invokes its client method at most once over any calls in which
every call of it that invoked the client returned. -/
theorem invocations_le_one (hkeep : ∀ method, KeepsAttrs (g method)) {method field : String}
    {body : Getter} (hg : g method = cached field body) :
    ∀ (a : Attrs) (calls : List Call), InvokedCallsReturn g a calls method →
      invocations g a calls method ≤ 1
  | _, [], _ => by simp [invocations, runCalls]
  | a, c :: cs, hret => by
    have hrest : InvokedCallsReturn g (g c.method a c.answer).attrs cs method := fun p hp =>
      hret p (by rw [runCalls, List.zip_cons_cons]; exact List.mem_cons_of_mem _ hp)
    unfold invocations
    rw [runCalls, List.zip_cons_cons, List.filter_cons]
    split
    · rename_i hfirst
      simp only [Bool.and_eq_true, beq_iff_eq] at hfirst
      obtain ⟨hm, hcalled⟩ := hfirst
      have hok := hret _ (by rw [runCalls, List.zip_cons_cons]; exact List.mem_cons_self _ _) hm
        hcalled
      simp only [hm, hg] at hok
      have hset := isSome_cached_of_isOk hok
      rw [← hg, ← hm] at hset
      rw [List.filter_eq_nil_iff.mpr fun p hp hq => by
        simp only [Bool.and_eq_true, beq_iff_eq] at hq
        have := runCalls_not_called hkeep cs hset p hp ⟨body, hq.1 ▸ hg⟩
        simp [this] at hq]
      simp
    · exact invocations_le_one hkeep hg _ cs hrest

end Runs

/-- The getter `method` of a resource is its body in `cached`, under the field of
`getterFields`. -/
theorem getters_of_lookup (x : Externals) (cv : Converters) (r : Resource) (stack : List Resource)
    {method field : String} (h : getterFields.lookup method = some field) :
    getters x cv r stack method = cached field (getterBody x r stack cv method) := by
  simp [getters, h]

/-- A name that is not a getter never invokes a client. -/
theorem getters_called_of_lookup_none (x : Externals) (cv : Converters) (r : Resource)
    (stack : List Resource) {method : String} (h : getterFields.lookup method = none) (a : Attrs)
    (answer : Except Exn Value) : (getters x cv r stack method a answer).called = false := by
  simp [getters, h]

/-- Over the calls, a getter that is not one invokes nothing. -/
theorem invocations_eq_zero {g : String → Getter} {method : String}
    (hg : ∀ a answer, (g method a answer).called = false) (a : Attrs) (calls : List Call) :
    invocations g a calls method = 0 := by
  unfold invocations
  rw [List.length_eq_zero, List.filter_eq_nil_iff]
  intro p hp hq
  induction calls generalizing a with
  | nil => simp [runCalls] at hp
  | cons c cs ih =>
    rw [runCalls, List.zip_cons_cons, List.mem_cons] at hp
    rcases hp with rfl | hp
    · simp only [Bool.and_eq_true, beq_iff_eq] at hq
      simp [hq.1, hg] at hq
    · exact ih _ hp

/-- A dataset's two getters, in `cached`. -/
theorem getters_dataset (x : Externals) (cv : Converters) {r : Resource} (stack : List Resource)
    (hr : r.cls.className = "BigqueryDataSet") :
    getters x cv r stack "get_iam_policy" =
        cached "iam_policy" (BigqueryDataSet.getIamPolicy x r stack cv) ∧
      getters x cv r stack "get_dataset_policy" =
        cached "dataset_policy" (BigqueryDataSet.getDatasetPolicy x r stack cv) := by
  rw [getters_of_lookup x cv r stack
      (show getterFields.lookup "get_iam_policy" = some "iam_policy" from rfl),
    getters_of_lookup x cv r stack
      (show getterFields.lookup "get_dataset_policy" = some "dataset_policy" from rfl)]
  simp only [getterBody, hr]
  exact ⟨rfl, rfl⟩

/-- A cached client-shaped getter whose `post` prefills the cache `other`: a call that invoked the
client and had a response leaves both its own cache and `other` set. -/
theorem cached_prefill_sets {α : Type} {own other : String} {args : Except Exn α}
    {message : Exn → Except Exn String} {conv : α → Value → Value} {a : Attrs} {data : Value}
    (hcalled : (cached own (clientBody args message fun v d a => (d, setCache other (conv v d) a))
      a (.ok data)).called = true) :
    ((cached own (clientBody args message fun v d a => (d, setCache other (conv v d) a))
        a (.ok data)).attrs (cacheAttr own)).isSome ∧
      ((cached own (clientBody args message fun v d a => (d, setCache other (conv v d) a))
        a (.ok data)).attrs (cacheAttr other)).isSome := by
  have hnone := cache_none_of_called hcalled
  rw [cached_called_of_none hnone] at hcalled
  obtain ⟨v, hv⟩ := clientBody_of_called hcalled
  rw [cached_of_ok hnone hv]
  exact ⟨isSome_update_self _ _ _, isSome_update Option.isSome_some (isSome_setCache_self _ _ _)⟩

/-- After a call of either getter of a dataset that had a response from its client, both caches
are set. -/
theorem dataset_caches_set (x : Externals) (cv : Converters) {r : Resource}
    (stack : List Resource) (hr : r.cls.className = "BigqueryDataSet") {a : Attrs} {c : Call}
    (hc : c.method = "get_iam_policy" ∨ c.method = "get_dataset_policy")
    (hcalled : (getters x cv r stack c.method a c.answer).called = true)
    (hans : c.answer.isOk = true) :
    ((getters x cv r stack c.method a c.answer).attrs (cacheAttr "iam_policy")).isSome ∧
      ((getters x cv r stack c.method a c.answer).attrs (cacheAttr "dataset_policy")).isSome := by
  obtain ⟨data, hdata⟩ : ∃ data, c.answer = .ok data := by
    cases h : c.answer with
    | ok data => exact ⟨data, rfl⟩
    | error e => simp [h, Except.isOk, Except.toBool] at hans
  obtain ⟨hiam, hds⟩ := getters_dataset x cv stack hr
  rcases hc with hm | hm <;> rw [hm, hdata] at hcalled ⊢
  · rw [hiam] at hcalled ⊢
    exact cached_prefill_sets hcalled
  · rw [hds] at hcalled ⊢
    exact (cached_prefill_sets hcalled).symm

/-- For every resource and every getter name, over any sequence of calls from any attributes and
with any answers of the client: the getter's client method is invoked at most once, provided every
call of the getter that invoked it returned; and for a dataset, once `get_iam_policy` or
`get_dataset_policy` invoked its client method and had a response, no later call of either
invokes its client method. -/
theorem getter_client_invoked_at_most_once (x : Externals) (cv : Converters) (r : Resource)
    (stack : List Resource) (a : Attrs) (calls : List Call) :
    (∀ method, InvokedCallsReturn (getters x cv r stack) a calls method →
      invocations (getters x cv r stack) a calls method ≤ 1) ∧
    (r.cls.className = "BigqueryDataSet" → ∀ pre c post, calls = pre ++ c :: post →
      (c.method = "get_iam_policy" ∨ c.method = "get_dataset_policy") →
      (getters x cv r stack c.method (attrsAfter (getters x cv r stack) a pre) c.answer).called =
        true →
      c.answer.isOk = true →
      ∀ p ∈ post.zip (runCalls (getters x cv r stack)
          (getters x cv r stack c.method (attrsAfter (getters x cv r stack) a pre) c.answer).attrs
          post),
        (p.1.method = "get_iam_policy" ∨ p.1.method = "get_dataset_policy") → p.2.called = false) := by
  have hkeep := keepsAttrs_getters x cv r stack
  refine ⟨fun method hret => ?_, fun hr pre c post _ hc hcalled hans p hp hm => ?_⟩
  · cases h : getterFields.lookup method with
    | none =>
      rw [invocations_eq_zero (getters_called_of_lookup_none x cv r stack h) a calls]
      exact Nat.zero_le 1
    | some field => exact invocations_le_one hkeep (getters_of_lookup x cv r stack h) a calls hret
  · obtain ⟨hiam, hds⟩ := dataset_caches_set x cv stack hr hc hcalled hans
    obtain ⟨giam, gds⟩ := getters_dataset x cv stack hr
    rcases hm with hm | hm
    · exact runCalls_not_called hkeep post hiam p hp ⟨_, hm ▸ giam⟩
    · exact runCalls_not_called hkeep post hds p hp ⟨_, hm ▸ gds⟩

/-- Converters that leave a policy as it is. -/
def sampleConverters : Converters := ⟨id, fun policy _ => policy⟩

/-- A dataset of the sample project. -/
def sampleDataset : Resource :=
  ⟨.bigqueryDataset, [("id", .str "p1:d1"),
    ("datasetReference", .obj [("datasetId", .str "d1"), ("projectId", .str "p1")])], false, []⟩

/-- The sample project, with its number. -/
def sampleProject : Resource :=
  ⟨.project, [("projectId", .str "p1"), ("projectNumber", .num 11)], false, []⟩

/-- A call of each getter of the dataset, each answered with a policy. -/
def datasetCalls : List Call :=
  [⟨"get_iam_policy", .ok (.obj [("bindings", .list [])])⟩,
   ⟨"get_dataset_policy", .ok (.obj [("access", .list [])])⟩]

/-- Both parts hold of `datasetCalls` on the sample dataset: `get_iam_policy` invokes its client
once, and the call of `get_dataset_policy` after it invokes nothing. -/
theorem getter_client_invoked_at_most_once_dataset :
    InvokedCallsReturn (getters sampleExternals sampleConverters sampleDataset [sampleOrg, sampleProject])
        (fun _ => none) datasetCalls "get_iam_policy" ∧
      invocations (getters sampleExternals sampleConverters sampleDataset [sampleOrg, sampleProject])
        (fun _ => none) datasetCalls "get_iam_policy" ≤ 1 ∧
      sampleDataset.cls.className = "BigqueryDataSet" ∧
      ∀ p ∈ [datasetCalls[1]].zip (runCalls
          (getters sampleExternals sampleConverters sampleDataset [sampleOrg, sampleProject])
          (getters sampleExternals sampleConverters sampleDataset [sampleOrg, sampleProject]
            datasetCalls[0].method (attrsAfter (getters sampleExternals sampleConverters
              sampleDataset [sampleOrg, sampleProject]) (fun _ => none) [])
            datasetCalls[0].answer).attrs [datasetCalls[1]]),
        (p.1.method = "get_iam_policy" ∨ p.1.method = "get_dataset_policy") → p.2.called = false :=
  have hret : InvokedCallsReturn (getters sampleExternals sampleConverters sampleDataset
      [sampleOrg, sampleProject]) (fun _ => none) datasetCalls "get_iam_policy" := by
    simp only [InvokedCallsReturn]
    decide
  ⟨hret, (getter_client_invoked_at_most_once sampleExternals sampleConverters sampleDataset
      [sampleOrg, sampleProject] (fun _ => none) datasetCalls).1 _ hret, rfl,
    (getter_client_invoked_at_most_once sampleExternals sampleConverters sampleDataset
      [sampleOrg, sampleProject] (fun _ => none) datasetCalls).2 rfl [] datasetCalls[0]
      [datasetCalls[1]] rfl (.inl rfl) rfl rfl⟩

/-- A failure of the connection, which no getter catches. -/
def resetAnswer : Except Exn Value := .error (.exception "Connection reset by peer")

/-- Two calls of `get_iam_policy` on the sample organization whose client fails with an exception
that the getter does not catch: nothing is cached, and both calls invoke the client. -/
theorem uncaught_client_error_refetches :
    invocations (getters sampleExternals sampleConverters sampleOrg []) (fun _ => none)
      [⟨"get_iam_policy", resetAnswer⟩, ⟨"get_iam_policy", resetAnswer⟩] "get_iam_policy" = 2 := by
  decide

/-! ### The service config of a cluster -/

/-- A cluster's getter of its service config, in `cached`. -/
theorem getters_kubernetesCluster (x : Externals) (cv : Converters) {r : Resource}
    (stack : List Resource) (hr : r.cls.className = "KubernetesCluster") :
    getters x cv r stack "get_kubernetes_service_config" =
      cached "service_config" (KubernetesCluster.getKubernetesServiceConfig x r stack) := by
  rw [getters_of_lookup x cv r stack
    (show getterFields.lookup "get_kubernetes_service_config" = some "service_config" from rfl)]
  simp only [getterBody, hr]
  rfl

/-- When `zone()` or `location()` raises `IndexError` and the parent's key computes, the
arguments of the cluster's client call raise it. -/
theorem serviceConfigArgs_of_indexError (x : Externals) {r : Resource} {stack : List Resource}
    {p : Resource} {ps : List Resource} {k s : String}
    (hp : (resourceMethods x).parent r stack = some (p, ps)) (hk : (resourceMethods x).key p ps = .ok k)
    (hs : r.data.lookup "selfLink" = some (.str s))
    (hraise : KubernetesCluster.zone r = .error (.indexError "list index out of range") ∨
      KubernetesCluster.location r = .error (.indexError "list index out of range")) :
    KubernetesCluster.serviceConfigArgs x r stack =
      .error (.indexError "list index out of range") := by
  unfold KubernetesCluster.serviceConfigArgs
  rw [hp]
  cases hz : KubernetesCluster.zone r with
  | error e =>
    obtain rfl := KubernetesCluster.selfLinkPart_error_of_str hs hz
    simp [hk, hz]
  | ok z =>
    rw [hz] at hraise
    simp only [reduceCtorEq, false_or] at hraise
    simp [hk, hz, hraise]

/-- For every cluster whose `selfLink` is missing or a string `s`, each of `zone()` and
`location()` returns `None` when the link is missing or `s.split('/')` has no part equal to its
segment, and the part after the first such part when there is one; when that first part is the
last one, it raises `IndexError`. Then `get_kubernetes_service_config`, on a cluster whose parent's
key computes and whose cache is unset, raises that `IndexError` for every answer of the client: the
client is not invoked, and nothing is stored or warned. -/
theorem cluster_self_link_raises_index_error (x : Externals) (cv : Converters) (r : Resource)
    (stack : List Resource) :
    (∀ f ∈ [(KubernetesCluster.zone, "zones"), (KubernetesCluster.location, "locations")],
      (r.data.lookup "selfLink" = none → f.1 r = .ok none) ∧
      ∀ s, r.data.lookup "selfLink" = some (.str s) →
        (f.2 ∉ pySplit s '/' → f.1 r = .ok none) ∧
        (∀ pre part rest, pySplit s '/' = pre ++ f.2 :: part :: rest → f.2 ∉ pre →
          f.1 r = .ok (some part)) ∧
        (∀ pre, pySplit s '/' = pre ++ [f.2] → f.2 ∉ pre →
          f.1 r = .error (.indexError "list index out of range"))) ∧
    (r.cls.className = "KubernetesCluster" → ∀ s segment pre p ps k,
      r.data.lookup "selfLink" = some (.str s) → segment ∈ ["zones", "locations"] →
      pySplit s '/' = pre ++ [segment] → segment ∉ pre →
      (resourceMethods x).parent r stack = some (p, ps) → (resourceMethods x).key p ps = .ok k →
      ∀ a answer, a (cacheAttr "service_config") = none →
        getters x cv r stack "get_kubernetes_service_config" a answer =
          ⟨false, .error (.indexError "list index out of range"), a, []⟩) := by
  refine ⟨fun f hf => ?_, fun hr s segment pre p ps k hs hseg hsplit hpre hp hk a answer ha => ?_⟩
  · simp only [List.mem_cons, List.mem_singleton, List.not_mem_nil, or_false] at hf
    rcases hf with rfl | rfl <;>
      exact ⟨KubernetesCluster.selfLinkPart_of_missing, fun s hs =>
        ⟨KubernetesCluster.selfLinkPart_of_not_mem hs,
          fun _ _ _ => KubernetesCluster.selfLinkPart_of_next hs,
          fun _ => KubernetesCluster.selfLinkPart_of_last hs⟩⟩
  · have hraise : KubernetesCluster.zone r = .error (.indexError "list index out of range") ∨
        KubernetesCluster.location r = .error (.indexError "list index out of range") := by
      simp only [List.mem_cons, List.mem_singleton, List.not_mem_nil, or_false] at hseg
      rcases hseg with rfl | rfl
      · exact .inl (KubernetesCluster.selfLinkPart_of_last hs hsplit hpre)
      · exact .inr (KubernetesCluster.selfLinkPart_of_last hs hsplit hpre)
    rw [getters_kubernetesCluster x cv stack hr]
    simp [cached, ha, KubernetesCluster.getKubernetesServiceConfig,
      serviceConfigArgs_of_indexError x hp hk hs hraise, KubernetesCluster.serviceConfigHandler,
      Exn.isFetchError]

/-- A cluster of the sample project whose link ends with the segment `zones`. -/
def zonesLastCluster : Resource :=
  ⟨.kubernetesCluster,
    [("selfLink", .str "https://container.googleapis.com/v1/projects/p1/zones")], false, []⟩

/-- The cluster's `zone()` raises `IndexError`, and so does its getter, on a fresh cluster, for a
client that would answer with a config. -/
theorem cluster_self_link_raises_index_error_zones :
    KubernetesCluster.zone zonesLastCluster = .error (.indexError "list index out of range") ∧
      getters sampleExternals sampleConverters zonesLastCluster [sampleOrg, sampleProject]
          "get_kubernetes_service_config" (fun _ => none) (.ok (.obj [])) =
        ⟨false, .error (.indexError "list index out of range"), fun _ => none, []⟩ :=
  have hsplit : pySplit "https://container.googleapis.com/v1/projects/p1/zones" '/' =
      ["https:", "", "container.googleapis.com", "v1", "projects", "p1"] ++ ["zones"] := by
    decide
  ⟨((cluster_self_link_raises_index_error sampleExternals sampleConverters zonesLastCluster
      [sampleOrg, sampleProject]).1 (KubernetesCluster.zone, "zones") (List.mem_cons_self _ _)).2
      _ rfl |>.2.2 _ hsplit (by decide),
    (cluster_self_link_raises_index_error sampleExternals sampleConverters zonesLastCluster
      [sampleOrg, sampleProject]).2 rfl _ "zones" _ sampleProject [sampleOrg] "p1" rfl
      (List.mem_cons_self _ _) hsplit (by decide) rfl rfl _ _ rfl⟩

end InventoryCrawler
