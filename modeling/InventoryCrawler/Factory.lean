import InventoryCrawler.InstanceGroups

/-!
# The iterators of `resource_iter_class_factory`

Most iterator classes of the crawler are made by one function, `resource_iter_class_factory`,
from the name of a client method, the resource to create, the keys of the resource whose values
are the method's arguments, and the name of a method of the resource that must hold first.
`IterFactory` is that call, and `ResourceIteratorSubclass.iter` the body of the class it makes:
nothing unless the check holds; then, inside `try: ... except ResourceNotSupported`, one
`create_new` per record the client lists (`iter_of_passed`).

The compute iterators, made by `compute_iter_class_factory`, and `KubernetesClusterIterator` check
`compute_api_enabled()` and `container_api_enabled()`, which call `billing_enabled()` with no
client. On an active project whose billing info is not cached, such an iterator yields nothing and
raises `AttributeError`, whatever the client would list; in the project's loop over its iterators,
driving it accepts nothing below the project and records one warning
(`gated_iterators_fail_without_billing_cache`).

On a project that is not active it is the other way round: its billing info is `{}` and its set of
enabled services is empty in every state its getters can leave it in, so every check but
`enumerable` returns `True`, and these iterators, with those that check `billing_enabled`,
`bigquery_api_enabled` or `storage_api_enabled`, list whatever the client lists
(`inactive_project_listed_by_api_gated`).

The checks read the project's data, its cached billing info and its set of enabled services, so
once both getters have cached a value no later getter call changes what any check returns
(`project_checks_fixed_once_cached`): every iterator of the project after that point sees the same
answers.
-/

namespace InventoryCrawler

/-- A call `resource_iter_class_factory(api_method_name, resource_name, api_method_arg_key,
additional_arg_keys, resource_validation_method_name)`, with the class `FACTORIES[resource_name]`
it creates, which stands for `resource_name`: nothing else reads the name. The client method
itself and the extra `**kwargs` are not modelled: what the method lists is given to `iter`. -/
structure IterFactory where
  apiMethodName : String
  /-- `FACTORIES[resource_name]`. -/
  cls : ResourceClass
  apiMethodArgKey : Option String := none
  additionalArgKeys : List String := []
  resourceValidationMethodName : Option String := none

namespace ResourceManagerProject

/-- The methods of a project with no argument that an iterator can name as its check, with what
each returns on attributes `a`. -/
def checks (r : Resource) (a : Attrs) : List (String × Except Exn Value) :=
  [("enumerable", (enumerable r).map .bool), ("billing_enabled", (billingEnabled r a).1),
   ("bigquery_api_enabled", (bigqueryApiEnabled r a).1),
   ("compute_api_enabled", (computeApiEnabled r a).1),
   ("container_api_enabled", (containerApiEnabled r a).1),
   ("storage_api_enabled", (storageApiEnabled a).map .bool)]

end ResourceManagerProject

/-- `getattr(self.resource, name)()` on a resource whose attributes are `a`: a check of a project,
and `AttributeError` for a name the resource's class does not have. -/
def validationCheck (r : Resource) (a : Attrs) (name : String) : Except Exn Value :=
  match (if r.cls.className = "ResourceManagerProject" then
      (ResourceManagerProject.checks r a).lookup name else none) with
  | some check => check
  | none => .error (.attributeError
      ("'" ++ r.cls.className ++ "' object has no attribute '" ++ name ++ "'"))

namespace IterFactory

variable (f : IterFactory) (r : Resource)

/-- `resource_validation_check()`: the named method of the resource, or `always_true`. -/
def check (a : Attrs) : Except Exn Value :=
  match f.resourceValidationMethodName with
  | some name => validationCheck r a name
  | none => .ok (.bool true)

/-- The arguments of the client method: `self.resource[api_method_arg_key]`, if the key is given,
then `self.resource[key]` for each additional key. -/
def args : Except Exn (List Value) := do
  let first ← f.apiMethodArgKey.mapM r.data.getItem
  let rest ← f.additionalArgKeys.mapM r.data.getItem
  pure (first.toList ++ rest)

end IterFactory

/-- `ResourceIteratorSubclass.iter()` of the class `f` makes, on a resource whose attributes are
`a`, with the records the client method lists and the exception it ends with: nothing unless the
check holds; then, inside `try: ... except ResourceNotSupported`, the arguments are read and
`FACTORIES[resource_name].create_new(data)` is yielded for each record. What it yields, and the
exception it ends with. -/
def ResourceIteratorSubclass.iter (f : IterFactory) (r : Resource) (a : Attrs)
    (listing : List Data × Option Exn) : List Resource × Option Exn :=
  match f.check r a with
  | .error e => ([], some e)
  | .ok passed =>
    if passed.truthy then
      match f.args r with
      | .error e => ([], ComputeInstanceGroupIterator.caught (some e))
      | .ok _ => (listing.1.map f.cls.createNew, ComputeInstanceGroupIterator.caught listing.2)
    else ([], none)

/-- `compute_iter_class_factory(api_method_name, resource_name)`: the arguments are
`self.resource['projectNumber']`, and the check is `compute_api_enabled`. -/
def computeIterClassFactory (apiMethodName : String) (cls : ResourceClass) :
    IterFactory where
  apiMethodName := apiMethodName
  cls := cls
  apiMethodArgKey := some "projectNumber"
  resourceValidationMethodName := some "compute_api_enabled"

/-- `ComputeInstanceIterator`. -/
def computeInstanceIterator : IterFactory :=
  computeIterClassFactory "iter_compute_instances" .computeInstance

/-- `KubernetesClusterIterator`. -/
def kubernetesClusterIterator : IterFactory where
  apiMethodName := "iter_container_clusters"
  cls := .kubernetesCluster
  apiMethodArgKey := some "projectNumber"
  resourceValidationMethodName := some "container_api_enabled"

/-- The crawl's record of an iterator agrees with what its `iter()` produced: the trees it holds
have the yielded resources at their tops, in order, and it raised the same. -/
def IterRun.Produces : IterRun Resource → List Resource × Option Exn → Prop
  | .mk items raises, out => items.map Served.res = out.1 ∧ raises = out.2

/-! ### The generic iterator -/

namespace ResourceIteratorSubclass

variable {f : IterFactory} {r : Resource} {a : Attrs} (listing : List Data × Option Exn)

/-- A check that raises ends the generator with its exception, before anything is listed. -/
theorem iter_of_check_error {e : Exn} (h : f.check r a = .error e) :
    iter f r a listing = ([], some e) := by
  simp [iter, h]

/-- A check that returns a false value ends the generator with nothing. -/
theorem iter_of_check_false {v : Value} (h : f.check r a = .ok v) (hv : v.truthy = false) :
    iter f r a listing = ([], none) := by
  simp [iter, h, hv]

/-- Once the check holds and the arguments are read, every record listed is yielded, in order, as
a resource of the factory's class, and the listing's exception is raised after them unless it is
`ResourceNotSupported`. -/
theorem iter_of_passed {v : Value} {args : List Value} (h : f.check r a = .ok v)
    (hv : v.truthy = true) (hargs : f.args r = .ok args) :
    iter f r a listing =
      (listing.1.map f.cls.createNew, ComputeInstanceGroupIterator.caught listing.2) := by
  simp [iter, h, hv, hargs]

end ResourceIteratorSubclass

/-- On a project, the check named `compute_api_enabled` is `compute_api_enabled()`. -/
theorem validationCheck_compute {r : Resource} (hr : r.cls.className = "ResourceManagerProject")
    (a : Attrs) :
    validationCheck r a "compute_api_enabled" = (ResourceManagerProject.computeApiEnabled r a).1 := by
  simp [validationCheck, hr, ResourceManagerProject.checks, List.lookup_cons]

/-- On a project, the check named `container_api_enabled` is `container_api_enabled()`. -/
theorem validationCheck_container {r : Resource} (hr : r.cls.className = "ResourceManagerProject")
    (a : Attrs) :
    validationCheck r a "container_api_enabled" =
      (ResourceManagerProject.containerApiEnabled r a).1 := by
  simp [validationCheck, hr, ResourceManagerProject.checks, List.lookup_cons]

/-- On a project that is not active, in every state among `InactiveAttrs`, every check an
iterator can name but `enumerable` returns `True`. -/
theorem validationCheck_of_inactiveAttrs {r : Resource}
    (hr : r.cls.className = "ResourceManagerProject") {a : Attrs}
    (h : ResourceManagerProject.InactiveAttrs a)
    (he : ResourceManagerProject.enumerable r = .ok false) :
    ∀ name ∈ ["billing_enabled", "bigquery_api_enabled", "compute_api_enabled",
      "container_api_enabled", "storage_api_enabled"],
      validationCheck r a name = .ok (.bool true) := by
  obtain ⟨a', hbill, -⟩ := ResourceManagerProject.billingEnabled_of_inactiveAttrs h he
  intro name hname
  simp only [List.mem_cons, List.mem_singleton, List.not_mem_nil, or_false] at hname
  rcases hname with rfl | rfl | rfl | rfl | rfl <;>
    simp [validationCheck, hr, ResourceManagerProject.checks, List.lookup_cons, hbill,
      ResourceManagerProject.bigqueryApiEnabled, ResourceManagerProject.computeApiEnabled,
      ResourceManagerProject.containerApiEnabled, ResourceManagerProject.storageApiEnabled,
      ResourceManagerProject.billingAndApiEnabled_of_inactiveAttrs h he,
      ResourceManagerProject.isApiEnabled_of_empty h.2, Except.map]

/-- A check of a project whose billing info is cached reads nothing but that cache and
`_enabled_service_names`. -/
theorem validationCheck_congr {r : Resource} {a a' : Attrs} {v : Value}
    (hb : a (cacheAttr "billing_info") = some v) (hb' : a' (cacheAttr "billing_info") = some v)
    (hn : a' "_enabled_service_names" = a "_enabled_service_names") (name : String) :
    validationCheck r a' name = validationCheck r a name := by
  simp [validationCheck, ResourceManagerProject.checks,
    ResourceManagerProject.billingEnabled_of_some hb,
    ResourceManagerProject.billingEnabled_of_some hb', ResourceManagerProject.bigqueryApiEnabled,
    ResourceManagerProject.computeApiEnabled, ResourceManagerProject.containerApiEnabled,
    ResourceManagerProject.billingAndApiEnabled_congr hb hb' hn,
    ResourceManagerProject.storageApiEnabled, ResourceManagerProject.isApiEnabled, hn]

/-- For every project, and every attributes in which it has cached both `get_billing_info` and
`get_enabled_apis`: no sequence of calls of its getters, with any answers of the client, changes
what any check an iterator can name returns on it. -/
theorem project_checks_fixed_once_cached (x : Externals) (cv : Converters) (r : Resource)
    (stack : List Resource) (hr : r.cls.className = "ResourceManagerProject") (a : Attrs)
    (hb : (a (cacheAttr "billing_info")).isSome) (he : (a (cacheAttr "enabled_apis")).isSome)
    (calls : List Call) (name : String) :
    validationCheck r (attrsAfter (getters x cv r stack) a calls) name = validationCheck r a name := by
  have hkeep := ResourceManagerProject.attrsAfter_of_cached x cv stack hr calls hb he
  obtain ⟨v, hv⟩ := Option.isSome_iff_exists.1 hb
  exact validationCheck_congr hv (by rw [hkeep _ (by simp [ResourceManagerProject.checkAttrs]), hv])
    (hkeep _ (by simp [ResourceManagerProject.checkAttrs])) name

/-- The active project with both getters cached: its billing enabled, and the compute API the one
enabled service. -/
def cachedProjectAttrs : Attrs :=
  Function.update (Function.update (Function.update ResourceManagerProject.initAttrs
    (cacheAttr "billing_info") (some (.obj [("billingEnabled", .bool true)])))
    (cacheAttr "enabled_apis") (some (.list [])))
    "_enabled_service_names" (some (.list [.str "compute.googleapis.com"]))

/-- The statement holds of the active project with both getters cached. -/
theorem project_checks_fixed_once_cached_active :
    activeProject.cls.className = "ResourceManagerProject" ∧
      (cachedProjectAttrs (cacheAttr "billing_info")).isSome ∧
      (cachedProjectAttrs (cacheAttr "enabled_apis")).isSome ∧
      ∀ calls name, validationCheck activeProject (attrsAfter (getters sampleExternals
        sampleConverters activeProject [sampleOrg]) cachedProjectAttrs calls) name =
        validationCheck activeProject cachedProjectAttrs name :=
  ⟨rfl, rfl, rfl, project_checks_fixed_once_cached sampleExternals sampleConverters activeProject
    [sampleOrg] rfl _ rfl rfl⟩

/-! ### The loop over a project's iterators -/

section Loop

variable (m : Methods Resource) (V : Visitor Resource)

/-- An iterator that yields nothing and raises an exception that is not a benign
`ApiExecutionError` adds, after it is driven, its one warning and nothing else. -/
theorem iterSegment_of_raises {p : Path} {r : Resource} {stack : List Resource} {text : String}
    {i : Nat} {c : String} {run : IterRun Resource} {e : Exn} (hrun : run.Produces ([], some e))
    (he : e.isSkipped = false) :
    iterSegment m V p r stack text i c (some run) =
      [.drive p i c, .warn p ("Exception raised processing " ++ text ++ ": " ++ e.str)] := by
  obtain ⟨items, raises⟩ := run
  obtain ⟨hitems, rfl⟩ := hrun
  obtain rfl := List.map_eq_nil_iff.1 hitems
  have hraise : iterRun m V p r stack i (some (.mk [] (some e))) = Crawl.raise e := rfl
  simp [iterSegment, hraise, failureWarnings, he]

end Loop

/-- For every iterator that `resource_iter_class_factory` makes with the check
`compute_api_enabled` or `container_api_enabled`, every active project with no billing info
cached, and whatever the client would list: `iter()` yields nothing and raises the
`AttributeError` of `fetch_billing_project_info` looked up on `None`. In the project's loop, for
any record of that run, the iterator is driven and one warning naming the project follows, with
nothing accepted below it. -/
theorem gated_iterators_fail_without_billing_cache (f : IterFactory)
    (hcheck : f.resourceValidationMethodName = some "compute_api_enabled" ∨
      f.resourceValidationMethodName = some "container_api_enabled")
    (r : Resource) (hr : r.cls.className = "ResourceManagerProject") (a : Attrs)
    (hb : a (cacheAttr "billing_info") = none)
    (he : ResourceManagerProject.enumerable r = .ok true) (listing : List Data × Option Exn) :
    ResourceIteratorSubclass.iter f r a listing =
        ([], some (ResourceManagerProject.noClientError "fetch_billing_project_info")) ∧
      ∀ (m : Methods Resource) (V : Visitor Resource) (p : Path) (stack : List Resource)
        (text : String) (i : Nat) (c : String) (run : IterRun Resource),
        run.Produces (ResourceIteratorSubclass.iter f r a listing) →
        iterSegment m V p r stack text i c (some run) =
          [.drive p i c, .warn p ("Exception raised processing " ++ text ++
            ": 'NoneType' object has no attribute 'fetch_billing_project_info'")] := by
  have hbill := ResourceManagerProject.billingEnabled_of_active hb he
  have hcheck' : f.check r a = .error (ResourceManagerProject.noClientError
      "fetch_billing_project_info") := by
    rcases hcheck with h | h <;>
      simp only [IterFactory.check, h, validationCheck_compute hr, validationCheck_container hr,
        ResourceManagerProject.computeApiEnabled, ResourceManagerProject.containerApiEnabled,
        ResourceManagerProject.billingAndApiEnabled_of_error hbill]
  have hiter := ResourceIteratorSubclass.iter_of_check_error listing hcheck'
  refine ⟨hiter, fun m V p stack text i c run hrun => ?_⟩
  rw [hiter] at hrun
  simp [iterSegment_of_raises m V hrun rfl, ResourceManagerProject.noClientError, Exn.str,
    String.append_assoc]

/-- `ComputeInstanceIterator` on a fresh active project yields nothing, whatever instances the
client lists. -/
theorem gated_iterators_fail_without_billing_cache_instances :
    ResourceIteratorSubclass.iter computeInstanceIterator activeProject
        ResourceManagerProject.initAttrs ([[("id", .num 1)]], none) =
      ([], some (ResourceManagerProject.noClientError "fetch_billing_project_info")) :=
  (gated_iterators_fail_without_billing_cache computeInstanceIterator (.inl rfl) activeProject rfl
    ResourceManagerProject.initAttrs (by simp [ResourceManagerProject.initAttrs, cacheAttr]) rfl
    _).1

/-- For every iterator that `resource_iter_class_factory` makes with a check of a project other
than `enumerable`, that is, every compute iterator (`compute_api_enabled`) and
`KubernetesClusterIterator` (`container_api_enabled`), every project whose `lifecycleState` is
not `ACTIVE`, every state its attributes can reach by calls of `get_billing_info` and
`get_enabled_apis` with any answers, and whatever the client lists: once the arguments read,
`iter()` yields one resource per record listed, in order, and then raises what the listing raises
unless it is `ResourceNotSupported`. The checks pass because the billing info of such a project is
`{}` and its set of enabled services is empty. -/
theorem inactive_project_listed_by_api_gated (x : Externals) (cv : Converters) (f : IterFactory)
    (hcheck : f.resourceValidationMethodName ∈
      [some "compute_api_enabled", some "container_api_enabled"])
    (r : Resource) (hr : r.cls.className = "ResourceManagerProject")
    (he : ResourceManagerProject.enumerable r = .ok false) (stack : List Resource) (a : Attrs)
    (ha : ResourceManagerProject.Reachable x cv r stack a) {args : List Value}
    (hargs : f.args r = .ok args) (listing : List Data × Option Exn) :
    ResourceIteratorSubclass.iter f r a listing =
      (listing.1.map f.cls.createNew, ComputeInstanceGroupIterator.caught listing.2) := by
  have hpass := validationCheck_of_inactiveAttrs hr
    (ResourceManagerProject.inactiveAttrs_of_reachable x cv stack hr he ha) he
  obtain ⟨name, hname, hf⟩ := List.mem_map.1 (show f.resourceValidationMethodName ∈
    (["compute_api_enabled", "container_api_enabled"].map some) from hcheck)
  have hmem : name ∈ ["billing_enabled", "bigquery_api_enabled", "compute_api_enabled",
      "container_api_enabled", "storage_api_enabled"] := by
    simp only [List.mem_cons, List.mem_singleton, List.not_mem_nil, or_false] at hname ⊢
    tauto
  exact ResourceIteratorSubclass.iter_of_passed (v := .bool true) listing
    (by rw [IterFactory.check, ← hf]; exact hpass name hmem) rfl hargs

/-- A project being deleted. -/
def deletedProject : Resource :=
  ⟨.project, [("projectId", .str "p2"), ("projectNumber", .num 12),
    ("lifecycleState", .str "DELETE_REQUESTED")], false, []⟩

/-- Answers of the client to the two getters of a project: billing is enabled, and so is the
Kubernetes Engine API. -/
def enabledProjectCalls : List Call :=
  [⟨"get_billing_info", .ok (.obj [("billingEnabled", .bool true)])⟩,
   ⟨"get_enabled_apis",
      .ok (.list [.obj [("config", .obj [("name", .str "container.googleapis.com")])]])⟩]

/-- `KubernetesClusterIterator` on a project that is being deleted, after its getters were called
with answers that enable billing and the Kubernetes Engine API, lists its clusters. -/
theorem inactive_project_listed_by_api_gated_deleted :
    ResourceManagerProject.Reachable sampleExternals sampleConverters deletedProject [sampleOrg]
        (attrsAfter (getters sampleExternals sampleConverters deletedProject [sampleOrg])
          ResourceManagerProject.initAttrs enabledProjectCalls) ∧
      ResourceIteratorSubclass.iter kubernetesClusterIterator deletedProject
          (attrsAfter (getters sampleExternals sampleConverters deletedProject [sampleOrg])
            ResourceManagerProject.initAttrs enabledProjectCalls)
          ([[("name", .str "k1")]], none) =
        ([ResourceClass.kubernetesCluster.createNew [("name", .str "k1")]], none) :=
  have hreach : ResourceManagerProject.Reachable sampleExternals sampleConverters deletedProject
      [sampleOrg] (attrsAfter (getters sampleExternals sampleConverters deletedProject [sampleOrg])
        ResourceManagerProject.initAttrs enabledProjectCalls) :=
    ⟨enabledProjectCalls, by simp [enabledProjectCalls], rfl⟩
  ⟨hreach, inactive_project_listed_by_api_gated sampleExternals sampleConverters
    kubernetesClusterIterator (by simp [kubernetesClusterIterator]) deletedProject rfl rfl
    [sampleOrg] _ hreach (rfl : kubernetesClusterIterator.args deletedProject = .ok [.num 12]) _⟩

end InventoryCrawler
