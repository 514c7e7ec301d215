import InventoryCrawler.Generate

/-!
# Where the crawl finds each resource

Every resource a crawl of a generated tree enters has, on its stack, the chain of resources whose
iterators yielded it (`entered_resources_descend`); below the top none is a root, and `parent()` is
the resource whose iterator yielded it, and that iterator's validation method, if it has one,
returned a true value on that resource (`entered_only_through_passed_checks`). From a top of a
class a crawl starts from, the tables fix
which classes sit above which, and the iterators' bodies what was asked of the client:

- a G Suite group or user is entered only right below an organization whose
  `has_directory_resource_id()` holds, and a member or the settings of a group only right below
  such a group (`gsuite_crawled_only_below_directory_organization`);
- a group member comes from a record with a `type`, and every record listed before it has one: a
  record without a `type` hides every member listed after it
  (`gsuite_members_listed_before_first_untyped`);
- a Bigtable cluster or table is entered only below an instance whose `instance_id` is not empty,
  and comes from the listing for the project's `projectId` and that id
  (`bigtable_listed_only_for_named_instances`);
- a Kubernetes pod is entered only below its namespace, cluster and project, and it is one of the
  records of `iter_kubernetes_pods` for the project's `projectId`, the cluster's `zone` and
  `name`, and the namespace's `metadata.name` (`kubernetes_pods_listed_for_their_namespace`);
- right below a project that is not active, nothing of a class that only an iterator gated by
  `enumerable()` yields is entered (`inactive_project_skips_enumerable_gated`), and an App Engine
  app is entered only below an active project, from the non-empty answer of `fetch_gae_app`
  (`appengine_app_only_below_active_project`); so every App Engine service, version and
  instance is entered only below an app right below an active project
  (`appengine_tree_only_below_active_projects`).

Each fact of the tables is one `decide` over `iteratorTable` and the classes a crawl meets; the
theorems climb the stack with `Chain.climb` and read the yielding iterator's body by its name.
-/

namespace InventoryCrawler

/-! ### A sample crawl

An organization with a G Suite directory, an active project and a project being deleted below
it, and a client that lists one record for every listing the theorems below read. The witnesses
take a finished schedule of its crawl, in which each resource they name has been entered. -/

/-- An organization whose owner names a G Suite customer. -/
def directoryOrg : Resource :=
  ⟨.organization, [("name", .str "organizations/1"),
    ("owner", .obj [("directoryCustomerId", .str "C1")])], true, []⟩

/-- The record of a G Suite group. -/
def groupData : Data := [("id", .str "g1"), ("email", .str "g1@example.com")]

/-- The record of a user member of a group. -/
def memberData : Data := [("type", .str "USER"), ("id", .str "u1")]

/-- The App Engine app of project `p1`. -/
def appData : Data := [("name", .str "apps/p1"), ("id", .str "p1")]

/-- Its default service. -/
def appServiceData : Data := [("name", .str "apps/p1/services/default"), ("id", .str "default")]

/-- A version of that service. -/
def appVersionData : Data :=
  [("name", .str "apps/p1/services/default/versions/v1"), ("id", .str "v1")]

/-- An instance of that version. -/
def appInstanceData : Data :=
  [("name", .str "apps/p1/services/default/versions/v1/instances/i1"), ("id", .str "i1")]

/-- A Bigtable instance. -/
def bigtableInstanceData : Data := [("name", .str "projects/p1/instances/bt1")]

/-- A cluster of that instance. -/
def bigtableClusterData : Data := [("name", .str "projects/p1/instances/bt1/clusters/c1")]

/-- A service account. -/
def serviceAccountData : Data :=
  [("name", .str "projects/p1/serviceAccounts/sa1"), ("uniqueId", .str "101")]

/-- A GKE cluster in zone `z1`. -/
def clusterData : Data :=
  [("selfLink", .str "https://container.googleapis.com/v1/projects/p1/zones/z1/clusters/k1"),
    ("zone", .str "z1"), ("name", .str "k1")]

/-- A namespace of that cluster. -/
def namespaceData : Data := [("metadata", .obj [("name", .str "ns1"), ("uid", .str "uid-ns1")])]

/-- A pod of that namespace. -/
def podData : Data := [("metadata", .obj [("name", .str "pod1"), ("uid", .str "uid-pod1")])]

/-- A client that answers each listing with the records above, whatever its arguments, lists both
projects, and fetches the App Engine app; the root fetches are denied. -/
def sampleCrawlClient : Client where
  list method _ := match method with
    | "iter_crm_projects" => ([activeProject.data, deletedProject.data], none)
    | "iter_gsuite_groups" => ([groupData], none)
    | "iter_gsuite_group_members" => ([memberData], none)
    | "iter_gae_services" => ([appServiceData], none)
    | "iter_gae_versions" => ([appVersionData], none)
    | "iter_gae_instances" => ([appInstanceData], none)
    | "iter_bigtable_instances" => ([bigtableInstanceData], none)
    | "iter_bigtable_clusters" => ([bigtableClusterData], none)
    | "iter_iam_serviceaccounts" => ([serviceAccountData], none)
    | "iter_container_clusters" => ([clusterData], none)
    | "iter_kubernetes_namespaces" => ([namespaceData], none)
    | "iter_kubernetes_pods" => ([podData], none)
    | _ => ([], none)
  fetch method _ := match method with
    | "fetch_gae_app" => .ok appData
    | _ => .error (.resourceNotSupported "")
  igInstances _ := .error (.resourceNotSupported "")
  roots := deniedClient

/-- The getter calls made on each resource before its iterators run: a project's billing info and
enabled services, which enable billing and the Kubernetes Engine API. -/
def sampleCalls (_ : List Resource) (r : Resource) (_ : String) : List Call :=
  if r.cls.className = "ResourceManagerProject" then enabledProjectCalls else []

/-- What `sampleCrawlClient` serves below `directoryOrg`, to depth five. -/
def sampleCrawlTree : Served Resource :=
  generate sampleExternals sampleConverters sampleCrawlClient sampleCalls 5 [] directoryOrg

/-- The sample tree is what the iterators generate. -/
theorem sampleCrawlTree_generated :
    Generated sampleExternals sampleConverters sampleCrawlClient [] sampleCrawlTree :=
  generate_generated _ 5 [] _

/-- The sample crawl starts from an organization. -/
theorem sampleCrawlTree_top : sampleCrawlTree.res.cls ∈ rootClasses :=
  List.mem_cons_of_mem _ (List.mem_cons_self _ _)

/-- The group the directory lists. -/
def sampleGroup : Resource := ResourceClass.gsuiteGroup.createNew groupData
/-- Its member. -/
def sampleMember : Resource := ResourceClass.gsuiteUserMember.createNew memberData
/-- The App Engine app of the active project. -/
def sampleApp : Resource := ResourceClass.appengineApp.createNew appData
/-- Its service. -/
def sampleAppService : Resource := ResourceClass.appengineService.createNew appServiceData
/-- Its version. -/
def sampleAppVersion : Resource := ResourceClass.appengineVersion.createNew appVersionData
/-- Its instance. -/
def sampleAppInstance : Resource := ResourceClass.appengineInstance.createNew appInstanceData
/-- The Bigtable instance, listed below both projects. -/
def sampleBigtableInstance : Resource :=
  ResourceClass.bigtableInstance.createNew bigtableInstanceData
/-- Its cluster. -/
def sampleBigtableCluster : Resource :=
  ResourceClass.bigtableCluster.createNew bigtableClusterData
/-- The service account of the active project. -/
def sampleServiceAccount : Resource :=
  ResourceClass.iamServiceAccount.createNew serviceAccountData
/-- The GKE cluster of the active project. -/
def sampleCluster : Resource := ResourceClass.kubernetesCluster.createNew clusterData
/-- Its namespace. -/
def sampleNamespace : Resource := ResourceClass.kubernetesNamespace.createNew namespaceData
/-- Its pod. -/
def samplePod : Resource := ResourceClass.kubernetesPod.createNew podData

/-- One hop down the sample crawl: the crawl of a resource's tree does all that the crawl of the
tree of the `j`-th item of its `i`-th iterator does, when the resource passes, its `repr`
computes, and the items before that one are dispatched. -/
theorem sampleCrawl_step (fuel : Nat) (p : Path) (stack : List Resource) (r : Resource)
    (i j : Nat) (c : Resource)
    (hpass : (resourceMethods sampleExternals).passes [] r stack = true) {text : String}
    (hrepr : (resourceMethods sampleExternals).repr r stack = .ok text) {e : IteratorClass}
    (he : (resolved r.cls.contains)[i]? = some e)
    (hc : (e.iter sampleExternals sampleCrawlClient r stack
      (attrsOf sampleExternals sampleConverters r stack (sampleCalls stack r e.name))).1[j]? =
        some c)
    (hbefore : ∀ c' ∈ (e.iter sampleExternals sampleCrawlClient r stack
      (attrsOf sampleExternals sampleConverters r stack (sampleCalls stack r e.name))).1.take j,
      c'.cls.dispatches = true) :
    ∀ y ∈ trace (accept (resourceMethods sampleExternals) sampleVisitor (p ++ [(i, j)])
        (generate sampleExternals sampleConverters sampleCrawlClient sampleCalls fuel
          (stack ++ [r]) c) (stack ++ [r])).acts,
      y ∈ trace (accept (resourceMethods sampleExternals) sampleVisitor p
        (generate sampleExternals sampleConverters sampleCrawlClient sampleCalls (fuel + 1)
          stack r) stack).acts :=
  trace_generate_subset sampleCalls sampleVisitor hpass rfl hrepr he hc
    (fun c' h => ⟨hbefore c' h, rfl⟩) fun _ _ h => by cases h

/-- The crawl of a resource's sample tree enters it. -/
theorem sampleCrawl_enter_mem (p : Path) (fuel : Nat) (stack : List Resource) (r : Resource) :
    (⟨p, r, stack⟩, false) ∈ trace (accept (resourceMethods sampleExternals) sampleVisitor p
      (generate sampleExternals sampleConverters sampleCrawlClient sampleCalls fuel stack r)
      stack).acts := by
  simpa using enter_mem_trace_accept (resourceMethods sampleExternals) sampleVisitor p
    (generate sampleExternals sampleConverters sampleCrawlClient sampleCalls fuel stack r) stack

set_option maxRecDepth 10000 in
/-- Every finished schedule of the sample crawl has entered the Bigtable instance below the
project being deleted, the group member, the App Engine app and instance, the Bigtable cluster,
the service account and the pod. -/
theorem sampleCrawl_enters {s : Pool Resource}
    (hs : Reachable (resourceMethods sampleExternals) sampleVisitor sampleCrawlTree s)
    (hd : s.Done) :
    .enter [(8, 1), (2, 0)] sampleBigtableInstance [directoryOrg, deletedProject] ∈ s.log ∧
    .enter [(1, 0), (0, 0)] sampleMember [directoryOrg, sampleGroup] ∈ s.log ∧
    .enter [(8, 0), (0, 0)] sampleApp [directoryOrg, activeProject] ∈ s.log ∧
    .enter [(8, 0), (0, 0), (0, 0), (0, 0), (0, 0)] sampleAppInstance
      [directoryOrg, activeProject, sampleApp, sampleAppService, sampleAppVersion] ∈ s.log ∧
    .enter [(8, 0), (2, 0), (0, 0)] sampleBigtableCluster
      [directoryOrg, activeProject, sampleBigtableInstance] ∈ s.log ∧
    .enter [(8, 0), (42, 0)] sampleServiceAccount [directoryOrg, activeProject] ∈ s.log ∧
    .enter [(8, 0), (44, 0), (1, 0), (0, 0)] samplePod
      [directoryOrg, activeProject, sampleCluster, sampleNamespace] ∈ s.log := by
  have e : ∀ {p r stack}, (⟨p, r, stack⟩, false) ∈
      trace (accept (resourceMethods sampleExternals) sampleVisitor [] sampleCrawlTree []).acts →
      .enter p r stack ∈ s.log :=
    enter_mem_log_of_trace _ _ hs hd
  -- below the organization: both projects and the group
  have hp1 := sampleCrawl_step 4 [] [] directoryOrg 8 0 activeProject
    (by decide) (by rfl) (by rfl) (by rfl) (by simp)
  have hp2 := sampleCrawl_step 4 [] [] directoryOrg 8 1 deletedProject
    (by decide) (by rfl) (by rfl) (by rfl) (by decide)
  have hg := sampleCrawl_step 4 [] [] directoryOrg 1 0 sampleGroup
    (by decide) (by rfl) (by rfl) (by rfl) (by simp)
  -- below the active project: the app, the Bigtable instance, the service account, the cluster
  have ha := sampleCrawl_step 3 [(8, 0)] [directoryOrg] activeProject 0 0 sampleApp
    (by decide) (by rfl) (by rfl) (by rfl) (by simp)
  have hbi := sampleCrawl_step 3 [(8, 0)] [directoryOrg] activeProject 2 0 sampleBigtableInstance
    (by decide) (by rfl) (by rfl) (by rfl) (by simp)
  have hk := sampleCrawl_step 3 [(8, 0)] [directoryOrg] activeProject 44 0 sampleCluster
    (by decide) (by rfl) (by rfl) (by rfl) (by simp)
  -- the App Engine tree
  have hsv := sampleCrawl_step 2 [(8, 0), (0, 0)] [directoryOrg, activeProject] sampleApp 0 0
    sampleAppService (by decide) (by rfl) (by rfl) (by rfl) (by simp)
  have hv := sampleCrawl_step 1 [(8, 0), (0, 0), (0, 0)] [directoryOrg, activeProject, sampleApp]
    sampleAppService 0 0 sampleAppVersion (by decide) (by rfl) (by rfl) (by rfl) (by simp)
  -- the Kubernetes tree
  have hns := sampleCrawl_step 2 [(8, 0), (44, 0)] [directoryOrg, activeProject] sampleCluster 1 0
    sampleNamespace (by decide) (by rfl) (by rfl) (by rfl) (by simp)
  refine ⟨e (hp2 _ (sampleCrawl_step 3 [(8, 1)] [directoryOrg] deletedProject 2 0
      sampleBigtableInstance (by decide) (by rfl) (by rfl) (by rfl) (by simp) _
      (sampleCrawl_enter_mem _ _ _ _))),
    e (hg _ (sampleCrawl_step 3 [(1, 0)] [directoryOrg] sampleGroup 0 0 sampleMember
      (by decide) (by rfl) (by rfl) (by rfl) (by simp) _ (sampleCrawl_enter_mem _ _ _ _))),
    e (hp1 _ (ha _ (sampleCrawl_enter_mem _ _ _ _))),
    e (hp1 _ (ha _ (hsv _ (hv _ (sampleCrawl_step 0 [(8, 0), (0, 0), (0, 0), (0, 0)]
      [directoryOrg, activeProject, sampleApp, sampleAppService] sampleAppVersion 0 0
      sampleAppInstance (by decide) (by rfl) (by rfl) (by rfl) (by simp) _
      (sampleCrawl_enter_mem _ _ _ _)))))),
    e (hp1 _ (hbi _ (sampleCrawl_step 2 [(8, 0), (2, 0)] [directoryOrg, activeProject]
      sampleBigtableInstance 0 0 sampleBigtableCluster (by decide) (by rfl) (by rfl) (by rfl)
      (by simp) _ (sampleCrawl_enter_mem _ _ _ _)))),
    e (hp1 _ (sampleCrawl_step 3 [(8, 0)] [directoryOrg] activeProject 42 0 sampleServiceAccount
      (by decide) (by rfl) (by rfl) (by rfl) (by simp) _ (sampleCrawl_enter_mem _ _ _ _))),
    e (hp1 _ (hk _ (hns _ (sampleCrawl_step 1 [(8, 0), (44, 0), (1, 0)]
      [directoryOrg, activeProject, sampleCluster] sampleNamespace 0 0 samplePod
      (by decide) (by rfl) (by rfl) (by rfl) (by simp) _ (sampleCrawl_enter_mem _ _ _ _)))))⟩

/-! ### What the stack of an entered resource holds -/

/-- For every client, every tree the iterators generate from it and every reachable state of its
crawl: every resource entered has the top of the tree at the head of its stack, and each resource
of its stack, and it, was yielded by an iterator of the one above it, run under that one's stack;
below the top, none of them is a root and each is of a class some iterator yields; and below the
top, `parent()` of a resource that has it is the resource whose iterator yielded it. -/
theorem entered_resources_descend (x : Externals) (cv : Converters) (client : Client)
    (V : Visitor Resource) (t : Served Resource) (hgen : Generated x cv client [] t)
    (s : Pool Resource) (hs : Reachable (resourceMethods x) V t s) :
    ∀ p r stack, .enter p r stack ∈ s.log →
      (stack ++ [r]).head? = some t.res ∧ Descends x cv client [] (stack ++ [r]) ∧
      (∀ c ∈ (stack ++ [r]).tail, c.root = false ∧ c.cls ∈ yieldedClasses) ∧
      ∀ pre q, stack = pre ++ [q] → r.cls.hasParent = true →
        YieldedBy x cv client pre q r ∧ (resourceMethods x).parent r stack = some (q, pre) := by
  intro p r stack he
  have hy := (enter_stack _ V hs he).1
  have hd := hgen.descends hy
  refine ⟨hy.head?, hd, fun c hc => hd.yielded hc, fun pre q hst hp => ?_⟩
  subst hst
  have hyr : YieldedBy x cv client pre q r := by
    simpa using (show Descends x cv client [] (pre ++ [q, r]) by simpa using hd).last
  exact ⟨hyr, (resourceMethods x).parent_append r q pre hp hyr.yielded.1⟩

/-- A finished schedule of the sample crawl has entered the pod, four levels below the
organization, and the statement holds of that entry. -/
theorem entered_resources_descend_sample :
    ∃ s, Reachable (resourceMethods sampleExternals) sampleVisitor sampleCrawlTree s ∧
      s.Done ∧
      .enter [(8, 0), (44, 0), (1, 0), (0, 0)] samplePod
        [directoryOrg, activeProject, sampleCluster, sampleNamespace] ∈ s.log ∧
      [directoryOrg, activeProject, sampleCluster, sampleNamespace, samplePod].head? =
        some sampleCrawlTree.res ∧
      Descends sampleExternals sampleConverters sampleCrawlClient []
        [directoryOrg, activeProject, sampleCluster, sampleNamespace, samplePod] ∧
      (∀ c ∈ [activeProject, sampleCluster, sampleNamespace, samplePod],
        c.root = false ∧ c.cls ∈ yieldedClasses) ∧
      ∀ pre q, [directoryOrg, activeProject, sampleCluster, sampleNamespace] = pre ++ [q] →
        samplePod.cls.hasParent = true →
        YieldedBy sampleExternals sampleConverters sampleCrawlClient pre q samplePod ∧
        (resourceMethods sampleExternals).parent samplePod
          [directoryOrg, activeProject, sampleCluster, sampleNamespace] = some (q, pre) := by
  obtain ⟨s, hs, hd⟩ :=
    exists_done (start (resourceMethods sampleExternals) sampleVisitor sampleCrawlTree)
  have he := (sampleCrawl_enters hs hd).2.2.2.2.2.2
  exact ⟨s, hs, hd, he,
    entered_resources_descend _ _ _ _ _ sampleCrawlTree_generated s hs _ _ _ he⟩

/-- For every client, every tree the iterators generate from it, every visitor and every
reachable state of its crawl: every resource entered right below a resource `q` was yielded by an
iterator class of `q`'s `contains` list, run on the attributes that some calls of `q`'s getters
left on a fresh `q`, and that iterator's validation method, if it has one, returned a true value
on `q` with those attributes. -/
theorem entered_only_through_passed_checks (x : Externals) (cv : Converters)
    (client : Client) (V : Visitor Resource) (t : Served Resource)
    (hgen : Generated x cv client [] t)
    (s : Pool Resource) (hs : Reachable (resourceMethods x) V t s) :
    ∀ p r pre q, .enter p r (pre ++ [q]) ∈ s.log →
      ∃ n ∈ q.cls.contains, ∃ e, iteratorClass? n = some e ∧ ∃ calls,
        r ∈ (e.iter x client q pre (attrsOf x cv q pre calls)).1 ∧
        ∀ name, e.gate = some name → ∃ v,
          validationCheck q (attrsOf x cv q pre calls) name = .ok v ∧ v.truthy = true := by
  intro p r pre q he
  have hd := hgen.descends (enter_stack _ V hs he).1
  obtain ⟨n, hn, e, he', calls, hr⟩ :=
    (show Descends x cv client [] (pre ++ [q, r]) by simpa using hd).last
  exact ⟨n, hn, e, he', calls, hr, fun _ hg => e.check_passed hr hg⟩

/-- A finished schedule of the sample crawl has entered the App Engine app right below the active
project, and the statement holds of that entry: the app's iterator passed `enumerable()` on the
project's attributes after its billing and services getters ran. -/
theorem entered_only_through_passed_checks_sample :
    ∃ s, Reachable (resourceMethods sampleExternals) sampleVisitor sampleCrawlTree s ∧
      s.Done ∧
      .enter [(8, 0), (0, 0)] sampleApp [directoryOrg, activeProject] ∈ s.log ∧
      ∃ n ∈ activeProject.cls.contains, ∃ e, iteratorClass? n = some e ∧ ∃ calls,
        sampleApp ∈ (e.iter sampleExternals sampleCrawlClient activeProject [directoryOrg]
          (attrsOf sampleExternals sampleConverters activeProject [directoryOrg] calls)).1 ∧
        ∀ name, e.gate = some name → ∃ v, validationCheck activeProject
          (attrsOf sampleExternals sampleConverters activeProject [directoryOrg] calls) name =
            .ok v ∧ v.truthy = true := by
  obtain ⟨s, hs, hd⟩ :=
    exists_done (start (resourceMethods sampleExternals) sampleVisitor sampleCrawlTree)
  have he := (sampleCrawl_enters hs hd).2.2.1
  exact ⟨s, hs, hd, he, entered_only_through_passed_checks _ _ _ _ _ sampleCrawlTree_generated s
    hs _ _ [directoryOrg] activeProject he⟩

/-! ### Facts of the tables -/

set_option maxRecDepth 2000 in
/-- Members are yielded only by the member iterator of a group. -/
theorem gsuiteMembers_below_groups :
    YieldedOnly ["GsuiteUserMember", "GsuiteGroupMember"] ["GsuiteMemberIterator"]
      "GsuiteGroup" := by
  decide

set_option maxRecDepth 2000 in
/-- Pods are yielded only by the pod iterator of a namespace. -/
theorem pods_below_namespaces :
    YieldedOnly ["KubernetesPod"] ["KubernetesPodIterator"] "KubernetesNamespace" := by
  decide

set_option maxRecDepth 2000 in
/-- Namespaces are yielded only by the namespace iterator of a cluster. -/
theorem namespaces_below_clusters :
    YieldedOnly ["KubernetesNamespace"] ["KubernetesNamespaceIterator"] "KubernetesCluster" := by
  decide

set_option maxRecDepth 2000 in
/-- Kubernetes clusters are yielded only by the cluster iterator of a project. -/
theorem clusters_below_projects :
    YieldedOnly ["KubernetesCluster"] ["KubernetesClusterIterator"] "ResourceManagerProject" := by
  decide

set_option maxRecDepth 2000 in
/-- Bigtable clusters and tables are yielded only by iterators of an instance. -/
theorem bigtableContents_below_instances :
    YieldedOnly ["BigtableCluster", "BigtableTable"]
      ["BigtableClusterIterator", "BigtableTableIterator"] "BigtableInstance" := by
  decide

set_option maxRecDepth 2000 in
/-- Bigtable instances are yielded only by the instance iterator of a project. -/
theorem bigtableInstances_below_projects :
    YieldedOnly ["BigtableInstance"] ["BigtableInstanceIterator"] "ResourceManagerProject" := by
  decide

set_option maxRecDepth 2000 in
/-- App Engine apps are yielded only by the app iterator of a project. -/
theorem appengineApps_below_projects :
    YieldedOnly ["AppEngineApp"] ["AppEngineAppIterator"] "ResourceManagerProject" := by
  decide

set_option maxRecDepth 2000 in
/-- App Engine services are yielded only by the service iterator of an app. -/
theorem appengineServices_below_apps :
    YieldedOnly ["AppEngineService"] ["AppEngineServiceIterator"] "AppEngineApp" := by
  decide

set_option maxRecDepth 2000 in
/-- App Engine versions are yielded only by the version iterator of a service. -/
theorem appengineVersions_below_services :
    YieldedOnly ["AppEngineVersion"] ["AppEngineVersionIterator"] "AppEngineService" := by
  decide

set_option maxRecDepth 2000 in
/-- App Engine instances are yielded only by the instance iterator of a version. -/
theorem appengineInstances_below_versions :
    YieldedOnly ["AppEngineInstance"] ["AppEngineInstanceIterator"] "AppEngineVersion" := by
  decide

/-- The classes that, below a project, only an iterator gated by `enumerable()` yields:
`AppEngineAppIterator` and the iterators of `resource_iter_class_factory` with
`resource_validation_method_name='enumerable'`. -/
def enumerableGatedClassNames : List String :=
  ["AppEngineApp", "CloudSqlInstance", "DataprocCluster", "DnsManagedZone", "DnsPolicy",
    "IamRole", "IamServiceAccount", "KmsKeyRing", "LoggingSink", "PubsubSubscription",
    "PubsubTopic", "ResourceManagerLien", "SpannerInstance"]

set_option maxRecDepth 2000 in
/-- An iterator that yields one of those classes and is not gated by `enumerable()` is no
iterator of a project. -/
theorem enumerable_gated_below_projects :
    ∀ e ∈ iteratorTable, e.gate ≠ some "enumerable" →
      ∀ c ∈ e.yields, c.className ∈ enumerableGatedClassNames →
      ∀ q ∈ crawlClasses, q.className = "ResourceManagerProject" → e.name ∉ q.contains := by
  decide

/-! ### G Suite -/

section Provenance

variable {x : Externals} {cv : Converters} {client : Client}

end Provenance

/-- For every client, every tree the iterators generate from it whose top is of a class a crawl
starts from, and every reachable state of its crawl: every group member entered sits right below a
G Suite group, and it is the member, by its `type`, of a record of
`iter_gsuite_group_members(group['id'])` that has a `type`, and every record listed before that
one has a `type` too: a record without one ends the loop, and no member listed after it is
crawled. -/
theorem gsuite_members_listed_before_first_untyped (x : Externals) (cv : Converters)
    (client : Client) (V : Visitor Resource) (t : Served Resource)
    (hgen : Generated x cv client [] t)
    (htop : t.res.cls ∈ rootClasses) (s : Pool Resource)
    (hs : Reachable (resourceMethods x) V t s) :
    ∀ p r stack, .enter p r stack ∈ s.log →
      r.cls.className ∈ ["GsuiteUserMember", "GsuiteGroupMember"] →
      ∃ pre group, stack = pre ++ [group] ∧ group.cls.className = "GsuiteGroup" ∧
        ∃ id, group.data.getItem "id" = .ok id ∧ ∃ before data after,
          (client.list "iter_gsuite_group_members" [id]).1 = before ++ data :: after ∧
          (∀ d ∈ before, ((Value.obj d).getItem "type").isOk = true) ∧
          ∃ t, (Value.obj data).getItem "type" = .ok t ∧
            GsuiteMemberIterator.memberOf data t = some r := by
  intro p r stack he hr
  have hch := hgen.chain htop (enter_stack _ V hs he).1
  obtain ⟨pre, g, rfl, hg, hy, -⟩ :=
    hch.climb gsuiteMembers_below_groups hr (by decide)
  obtain ⟨n, hn, e, he', calls, hre⟩ := hy.by_name gsuiteMembers_below_groups hr
  obtain rfl := List.mem_singleton.1 hn
  obtain rfl := Option.some.inj (he'.symm.trans rfl)
  exact ⟨pre, g, rfl, hg, GsuiteMemberIterator.mem_iter hre⟩

/-- A finished schedule of the sample crawl has entered the member of the directory's group, and
the statement holds of that entry. -/
theorem gsuite_members_listed_before_first_untyped_sample :
    ∃ s, Reachable (resourceMethods sampleExternals) sampleVisitor sampleCrawlTree s ∧
      s.Done ∧
      .enter [(1, 0), (0, 0)] sampleMember [directoryOrg, sampleGroup] ∈ s.log ∧
      ∃ pre group, [directoryOrg, sampleGroup] = pre ++ [group] ∧
        group.cls.className = "GsuiteGroup" ∧
        ∃ id, group.data.getItem "id" = .ok id ∧ ∃ before data after,
          (sampleCrawlClient.list "iter_gsuite_group_members" [id]).1 = before ++ data :: after ∧
          (∀ d ∈ before, ((Value.obj d).getItem "type").isOk = true) ∧
          ∃ t, (Value.obj data).getItem "type" = .ok t ∧
            GsuiteMemberIterator.memberOf data t = some sampleMember := by
  obtain ⟨s, hs, hd⟩ :=
    exists_done (start (resourceMethods sampleExternals) sampleVisitor sampleCrawlTree)
  have he := (sampleCrawl_enters hs hd).2.1
  exact ⟨s, hs, hd, he, gsuite_members_listed_before_first_untyped _ _ _ _ _
    sampleCrawlTree_generated sampleCrawlTree_top s hs _ _ _ he (by decide)⟩

/-! ### Bigtable -/

/-- For every client, every tree the iterators generate from it whose top is of a class a crawl
starts from, and every reachable state of its crawl: every Bigtable cluster or table entered sits
right below a Bigtable instance, right below a project; the instance's `instance_id`, the part of
its `name` after the last `/`, is not empty; and the resource is made by `create_new` from a
record of `iter_bigtable_clusters` or `iter_bigtable_tables` called with the project's `projectId`
and that id. -/
theorem bigtable_listed_only_for_named_instances (x : Externals) (cv : Converters)
    (client : Client) (V : Visitor Resource) (t : Served Resource)
    (hgen : Generated x cv client [] t)
    (htop : t.res.cls ∈ rootClasses) (s : Pool Resource)
    (hs : Reachable (resourceMethods x) V t s) :
    ∀ p r stack, .enter p r stack ∈ s.log →
      r.cls.className ∈ ["BigtableCluster", "BigtableTable"] →
      ∃ pre project inst, stack = pre ++ [project, inst] ∧
        project.cls.className = "ResourceManagerProject" ∧
        inst.cls.className = "BigtableInstance" ∧
        ∃ id, BigtableInstance.instanceId inst = .ok id ∧ id ≠ "" ∧
        ∃ pid, project.data.getItem "projectId" = .ok pid ∧
          ((∃ data ∈ (client.list "iter_bigtable_clusters" [pid, .str id]).1,
              r = ResourceClass.bigtableCluster.createNew data) ∨
            ∃ data ∈ (client.list "iter_bigtable_tables" [pid, .str id]).1,
              r = ResourceClass.bigtableTable.createNew data) := by
  intro p r stack he hr
  obtain ⟨hy, hpar⟩ := enter_stack _ V hs he
  have hch := hgen.chain htop hy
  obtain ⟨s1, inst, rfl, hinst, hyr, hch1⟩ :=
    hch.climb bigtableContents_below_instances hr (by decide)
  obtain ⟨pre, pr, rfl, hpr, hyi, -⟩ :=
    hch1.climb bigtableInstances_below_projects (List.mem_singleton.2 hinst) (by decide)
  have hip : inst.cls.hasParent = true ∧ inst.root = false := ⟨hpar inst (by simp), hyi.yielded.1⟩
  obtain ⟨n, hn, e, he', calls, hre⟩ := hyr.by_name bigtableContents_below_instances hr
  simp only [List.mem_cons, List.mem_singleton, List.not_mem_nil, or_false] at hn
  rcases hn with rfl | rfl <;> obtain rfl := Option.some.inj (he'.symm.trans rfl) <;>
    obtain ⟨-, id, hid, hne, pid, hpid, data, hdata, rfl⟩ := mem_bigtableIter hre <;>
    rw [parentItem_append hip.1 hip.2] at hpid
  · exact ⟨pre, pr, inst, by simp, hpr, hinst, id, hid, hne, pid, hpid, .inl ⟨data, hdata, rfl⟩⟩
  · exact ⟨pre, pr, inst, by simp, hpr, hinst, id, hid, hne, pid, hpid, .inr ⟨data, hdata, rfl⟩⟩

/-- A finished schedule of the sample crawl has entered the Bigtable cluster, and the statement
holds of that entry. -/
theorem bigtable_listed_only_for_named_instances_sample :
    ∃ s, Reachable (resourceMethods sampleExternals) sampleVisitor sampleCrawlTree s ∧
      s.Done ∧
      .enter [(8, 0), (2, 0), (0, 0)] sampleBigtableCluster
        [directoryOrg, activeProject, sampleBigtableInstance] ∈ s.log ∧
      ∃ pre project inst, [directoryOrg, activeProject, sampleBigtableInstance] =
          pre ++ [project, inst] ∧
        project.cls.className = "ResourceManagerProject" ∧
        inst.cls.className = "BigtableInstance" ∧
        ∃ id, BigtableInstance.instanceId inst = .ok id ∧ id ≠ "" ∧
        ∃ pid, project.data.getItem "projectId" = .ok pid ∧
          ((∃ data ∈ (sampleCrawlClient.list "iter_bigtable_clusters" [pid, .str id]).1,
              sampleBigtableCluster = ResourceClass.bigtableCluster.createNew data) ∨
            ∃ data ∈ (sampleCrawlClient.list "iter_bigtable_tables" [pid, .str id]).1,
              sampleBigtableCluster = ResourceClass.bigtableTable.createNew data) := by
  obtain ⟨s, hs, hd⟩ :=
    exists_done (start (resourceMethods sampleExternals) sampleVisitor sampleCrawlTree)
  have he := (sampleCrawl_enters hs hd).2.2.2.2.1
  exact ⟨s, hs, hd, he, bigtable_listed_only_for_named_instances _ _ _ _ _
    sampleCrawlTree_generated sampleCrawlTree_top s hs _ _ _ he (by decide)⟩

/-! ### Kubernetes -/

/-- For every client, every tree the iterators generate from it whose top is of a class a crawl
starts from, and every reachable state of its crawl: every Kubernetes pod entered sits below a
namespace, below a cluster, below a project, and it is made by `create_new` from one of the
records of `iter_kubernetes_pods(project_id, zone, cluster, namespace)` called with the project's
`projectId`, the cluster's `zone` and `name`, and the namespace's `metadata.name`. -/
theorem kubernetes_pods_listed_for_their_namespace (x : Externals) (cv : Converters)
    (client : Client) (V : Visitor Resource) (t : Served Resource)
    (hgen : Generated x cv client [] t)
    (htop : t.res.cls ∈ rootClasses) (s : Pool Resource)
    (hs : Reachable (resourceMethods x) V t s) :
    ∀ p r stack, .enter p r stack ∈ s.log → r.cls.className = "KubernetesPod" →
      ∃ pre project cluster ns, stack = pre ++ [project, cluster, ns] ∧
        project.cls.className = "ResourceManagerProject" ∧
        cluster.cls.className = "KubernetesCluster" ∧ ns.cls.className = "KubernetesNamespace" ∧
        ∃ vs, (do pure [← project.data.getItem "projectId", ← cluster.data.getItem "zone",
            ← cluster.data.getItem "name", ← (← ns.data.getItem "metadata").getItem "name"] :
            Except Exn (List Value)) = .ok vs ∧
          ∃ data ∈ (client.list "iter_kubernetes_pods" vs).1,
            r = ResourceClass.kubernetesPod.createNew data := by
  intro p r stack he hr
  obtain ⟨hy, hpar⟩ := enter_stack _ V hs he
  have hch := hgen.chain htop hy
  obtain ⟨s1, ns, rfl, hns, hyr, hch1⟩ :=
    hch.climb pods_below_namespaces (List.mem_singleton.2 hr) (by decide)
  obtain ⟨s2, cl, rfl, hcl, hyns, hch2⟩ :=
    hch1.climb namespaces_below_clusters (List.mem_singleton.2 hns) (by decide)
  obtain ⟨pre, pr, rfl, hpr, hycl, -⟩ :=
    hch2.climb clusters_below_projects (List.mem_singleton.2 hcl) (by decide)
  obtain ⟨n, hn, e, he', calls, hre⟩ := hyr.by_name pods_below_namespaces (List.mem_singleton.2 hr)
  obtain rfl := List.mem_singleton.1 hn
  obtain rfl := Option.some.inj (he'.symm.trans rfl)
  obtain ⟨vs, hvs, data, hdata, rfl⟩ := mem_createListed.1 hre
  have hnsp : ns.cls.hasParent = true ∧ ns.root = false := ⟨hpar ns (by simp), hyns.yielded.1⟩
  have hclp : cl.cls.hasParent = true ∧ cl.root = false := ⟨hpar cl (by simp), hycl.yielded.1⟩
  rw [grandparentItem_append hnsp hclp, parentItem_append hnsp.1 hnsp.2,
    parentItem_append hnsp.1 hnsp.2] at hvs
  exact ⟨pre, pr, cl, ns, by simp, hpr, hcl, hns, vs, hvs, data, hdata, rfl⟩

/-- A finished schedule of the sample crawl has entered the pod, and the statement holds of that
entry. -/
theorem kubernetes_pods_listed_for_their_namespace_sample :
    ∃ s, Reachable (resourceMethods sampleExternals) sampleVisitor sampleCrawlTree s ∧
      s.Done ∧
      .enter [(8, 0), (44, 0), (1, 0), (0, 0)] samplePod
        [directoryOrg, activeProject, sampleCluster, sampleNamespace] ∈ s.log ∧
      ∃ pre project cluster ns, [directoryOrg, activeProject, sampleCluster, sampleNamespace] =
          pre ++ [project, cluster, ns] ∧
        project.cls.className = "ResourceManagerProject" ∧
        cluster.cls.className = "KubernetesCluster" ∧ ns.cls.className = "KubernetesNamespace" ∧
        ∃ vs, (do pure [← project.data.getItem "projectId", ← cluster.data.getItem "zone",
            ← cluster.data.getItem "name", ← (← ns.data.getItem "metadata").getItem "name"] :
            Except Exn (List Value)) = .ok vs ∧
          ∃ data ∈ (sampleCrawlClient.list "iter_kubernetes_pods" vs).1,
            samplePod = ResourceClass.kubernetesPod.createNew data := by
  obtain ⟨s, hs, hd⟩ :=
    exists_done (start (resourceMethods sampleExternals) sampleVisitor sampleCrawlTree)
  have he := (sampleCrawl_enters hs hd).2.2.2.2.2.2
  exact ⟨s, hs, hd, he, kubernetes_pods_listed_for_their_namespace _ _ _ _ _
    sampleCrawlTree_generated sampleCrawlTree_top s hs _ _ _ he rfl⟩

/-! ### Projects that are not active -/

/-- For every client, every tree the iterators generate from it whose top is of a class a crawl
starts from, and every reachable state of its crawl: right below a project whose
`lifecycleState` is not `ACTIVE`, no App Engine app, Cloud SQL instance, Dataproc cluster, DNS
zone or policy, IAM role or service account, KMS key ring, log sink, Pub/Sub subscription or
topic, lien or Spanner instance is entered, whatever the client would list: the iterators that
yield them check `enumerable()` first. -/
theorem inactive_project_skips_enumerable_gated (x : Externals) (cv : Converters)
    (client : Client) (V : Visitor Resource) (t : Served Resource)
    (hgen : Generated x cv client [] t)
    (htop : t.res.cls ∈ rootClasses) (s : Pool Resource)
    (hs : Reachable (resourceMethods x) V t s) :
    ∀ p r pre q, .enter p r (pre ++ [q]) ∈ s.log → q.cls.className = "ResourceManagerProject" →
      ResourceManagerProject.enumerable q = .ok false →
      r.cls.className ∉ enumerableGatedClassNames := by
  intro p r pre q he hq hen hr
  have hch := hgen.chain htop (enter_stack _ V hs he).1
  obtain ⟨n, hn, e, he', calls, hre⟩ :=
    (show Descends x cv client [] (pre ++ [q, r]) by simpa using hch.descends).last
  obtain ⟨hmem, rfl⟩ := iteratorClass?_spec he'
  have hgate : e.gate = some "enumerable" := Decidable.byContradiction fun hg =>
    enumerable_gated_below_projects e hmem hg r.cls (e.iter_yields x client q _ _ r hre).2 hr q.cls
      (hch.mem_crawlClasses q (by simp)) hq hn
  have hcheck (a : Attrs) : validationCheck q a "enumerable" = .ok (.bool false) := by
    rw [validationCheck_enumerable hq, hen]
    rfl
  rw [e.iter_gate x client q _ _ _ _ hgate (hcheck _) rfl] at hre
  exact List.not_mem_nil _ hre

/-- In a finished schedule of the sample crawl, the Bigtable instance has been entered right below
the project being deleted, whose `enumerable()` is false; and nothing of a gated class has been
entered right below it, although the client lists a service account for every project. -/
theorem inactive_project_skips_enumerable_gated_sample :
    ∃ s, Reachable (resourceMethods sampleExternals) sampleVisitor sampleCrawlTree s ∧
      s.Done ∧
      .enter [(8, 1), (2, 0)] sampleBigtableInstance [directoryOrg, deletedProject] ∈ s.log ∧
      ResourceManagerProject.enumerable deletedProject = .ok false ∧
      (sampleCrawlClient.list "iter_iam_serviceaccounts" [.str "p2"]).1 ≠ [] ∧
      ∀ p r pre, .enter p r (pre ++ [deletedProject]) ∈ s.log →
        r.cls.className ∉ enumerableGatedClassNames := by
  obtain ⟨s, hs, hd⟩ :=
    exists_done (start (resourceMethods sampleExternals) sampleVisitor sampleCrawlTree)
  have hen : ResourceManagerProject.enumerable deletedProject = .ok false := rfl
  exact ⟨s, hs, hd, (sampleCrawl_enters hs hd).1, hen, by simp [sampleCrawlClient],
    fun p r pre he => inactive_project_skips_enumerable_gated _ _ _ _ _ sampleCrawlTree_generated
      sampleCrawlTree_top s hs p r pre _ he rfl hen⟩

/-! ### App Engine -/

section AppEngine

variable {x : Externals} {cv : Converters} {client : Client}

/-- An App Engine app sits right below a project whose `enumerable()` holds, and is the non-empty
answer of `fetch_gae_app` for the project's `projectId`. -/
theorem Chain.app_below_active_project {rs : List Resource} {r : Resource}
    (h : Chain x cv client (rs ++ [r])) (hr : r.cls.className = "AppEngineApp") :
    ∃ pre project, rs = pre ++ [project] ∧
      project.cls.className = "ResourceManagerProject" ∧
      ResourceManagerProject.enumerable project = .ok true ∧
      ∃ id data, project.data.getItem "projectId" = .ok id ∧
        client.fetch "fetch_gae_app" [id] = .ok data ∧ (Value.obj data).truthy = true ∧
        r = ResourceClass.appengineApp.createNew data := by
  obtain ⟨pre, q, rfl, hq, hy, -⟩ :=
    h.climb appengineApps_below_projects (List.mem_singleton.2 hr) (by decide)
  obtain ⟨n, hn, e, he', calls, hre⟩ := hy.by_name appengineApps_below_projects (List.mem_singleton.2 hr)
  obtain rfl := List.mem_singleton.1 hn
  obtain rfl := Option.some.inj (he'.symm.trans rfl)
  obtain ⟨v, hv, ht, id, data, hid, hf, hd, rfl⟩ := AppEngineAppIterator.mem_iter hre
  rw [validationCheck_enumerable hq] at hv
  have hen : ResourceManagerProject.enumerable q = .ok true := by
    cases hq' : ResourceManagerProject.enumerable q with
    | error e => simp [hq', Except.map] at hv
    | ok b =>
      simp only [hq', Except.map, Except.ok.injEq] at hv
      subst hv
      simpa [Value.truthy] using ht
  exact ⟨pre, q, rfl, hq, hen, id, data, hid, hf, hd, rfl⟩

/-- One step up the App Engine tree: a service sits right below an app, a version below a service,
an instance below a version. -/
theorem Chain.climb_appengine {rs : List Resource} {c : Resource}
    (h : Chain x cv client (rs ++ [c]))
    {k n k' : String} (hk : YieldedOnly [k] [n] k') (hc : c.cls.className = k)
    (hroot : ∀ a ∈ rootClasses, a.className ≠ k) :
    ∃ pre p, rs = pre ++ [p] ∧ p.cls.className = k' ∧ Chain x cv client (pre ++ [p]) :=
  let ⟨pre, p, hrs, hp, _, hch⟩ := h.climb hk (List.mem_singleton.2 hc)
    fun a ha hin => hroot a ha (List.mem_singleton.1 hin)
  ⟨pre, p, hrs, hp, hch⟩

/-- The chain of every App Engine resource passes through an app. -/
theorem Chain.to_app {rs : List Resource} {c : Resource} (h : Chain x cv client (rs ++ [c]))
    (hc : c.cls.className ∈ ["AppEngineApp", "AppEngineService", "AppEngineVersion",
      "AppEngineInstance"]) :
    ∃ pre app rest, rs ++ [c] = pre ++ [app] ++ rest ∧ app.cls.className = "AppEngineApp" ∧
      Chain x cv client (pre ++ [app]) := by
  simp only [List.mem_cons, List.mem_singleton, List.not_mem_nil, or_false] at hc
  rcases hc with hc | hc | hc | hc
  · exact ⟨rs, c, [], by simp, hc, h⟩
  · obtain ⟨pre, app, rfl, happ, hch⟩ :=
      h.climb_appengine appengineServices_below_apps hc (by decide)
    exact ⟨pre, app, [c], by simp, happ, hch⟩
  · obtain ⟨pre, svc, rfl, hsvc, hch⟩ :=
      h.climb_appengine appengineVersions_below_services hc (by decide)
    obtain ⟨pre, app, rfl, happ, hch⟩ :=
      hch.climb_appengine appengineServices_below_apps hsvc (by decide)
    exact ⟨pre, app, [svc, c], by simp, happ, hch⟩
  · obtain ⟨pre, ver, rfl, hver, hch⟩ :=
      h.climb_appengine appengineInstances_below_versions hc (by decide)
    obtain ⟨pre, svc, rfl, hsvc, hch⟩ :=
      hch.climb_appengine appengineVersions_below_services hver (by decide)
    obtain ⟨pre, app, rfl, happ, hch⟩ :=
      hch.climb_appengine appengineServices_below_apps hsvc (by decide)
    exact ⟨pre, app, [svc, ver, c], by simp, happ, hch⟩

end AppEngine

/-- For every client, every tree the iterators generate from it whose top is of a class a crawl
starts from, and every reachable state of its crawl: every App Engine app entered sits right below
a project whose `lifecycleState` is `ACTIVE`, and it is made by `create_new` from the non-empty
data that `fetch_gae_app` returned for the project's `projectId`. -/
theorem appengine_app_only_below_active_project (x : Externals) (cv : Converters)
    (client : Client) (V : Visitor Resource) (t : Served Resource)
    (hgen : Generated x cv client [] t)
    (htop : t.res.cls ∈ rootClasses) (s : Pool Resource)
    (hs : Reachable (resourceMethods x) V t s) :
    ∀ p r stack, .enter p r stack ∈ s.log → r.cls.className = "AppEngineApp" →
      ∃ pre project, stack = pre ++ [project] ∧
        project.cls.className = "ResourceManagerProject" ∧
        ResourceManagerProject.enumerable project = .ok true ∧
        ∃ id data, project.data.getItem "projectId" = .ok id ∧
          client.fetch "fetch_gae_app" [id] = .ok data ∧ (Value.obj data).truthy = true ∧
          r = ResourceClass.appengineApp.createNew data := by
  intro p r stack he hr
  exact (hgen.chain htop (enter_stack _ V hs he).1).app_below_active_project hr

/-- A finished schedule of the sample crawl has entered the App Engine app, and the statement holds
of that entry. -/
theorem appengine_app_only_below_active_project_sample :
    ∃ s, Reachable (resourceMethods sampleExternals) sampleVisitor sampleCrawlTree s ∧
      s.Done ∧
      .enter [(8, 0), (0, 0)] sampleApp [directoryOrg, activeProject] ∈ s.log ∧
      ∃ pre project, [directoryOrg, activeProject] = pre ++ [project] ∧
        project.cls.className = "ResourceManagerProject" ∧
        ResourceManagerProject.enumerable project = .ok true ∧
        ∃ id data, project.data.getItem "projectId" = .ok id ∧
          sampleCrawlClient.fetch "fetch_gae_app" [id] = .ok data ∧
          (Value.obj data).truthy = true ∧
          sampleApp = ResourceClass.appengineApp.createNew data := by
  obtain ⟨s, hs, hd⟩ :=
    exists_done (start (resourceMethods sampleExternals) sampleVisitor sampleCrawlTree)
  have he := (sampleCrawl_enters hs hd).2.2.1
  exact ⟨s, hs, hd, he, appengine_app_only_below_active_project _ _ _ _ _
    sampleCrawlTree_generated sampleCrawlTree_top s hs _ _ _ he rfl⟩

/-- For every client, every tree the iterators generate from it whose top is of a class a crawl
starts from, and every reachable state of its crawl: every App Engine app, service, version or
instance entered has on its stack an app right below a project whose `lifecycleState` is
`ACTIVE`. The check `enumerable()` of `AppEngineAppIterator` keeps the whole App Engine tree of a
project that is not active out of the crawl. -/
theorem appengine_tree_only_below_active_projects (x : Externals) (cv : Converters)
    (client : Client) (V : Visitor Resource) (t : Served Resource)
    (hgen : Generated x cv client [] t)
    (htop : t.res.cls ∈ rootClasses) (s : Pool Resource)
    (hs : Reachable (resourceMethods x) V t s) :
    ∀ p r stack, .enter p r stack ∈ s.log →
      r.cls.className ∈ ["AppEngineApp", "AppEngineService", "AppEngineVersion",
        "AppEngineInstance"] →
      ∃ pre project app rest, stack ++ [r] = pre ++ [project, app] ++ rest ∧
        project.cls.className = "ResourceManagerProject" ∧
        ResourceManagerProject.enumerable project = .ok true ∧
        app.cls.className = "AppEngineApp" := by
  intro p r stack he hr
  obtain ⟨pre, app, rest, hst, happ, hch⟩ :=
    (hgen.chain htop (enter_stack _ V hs he).1).to_app hr
  obtain ⟨pre, q, rfl, hq, hen, -⟩ := hch.app_below_active_project happ
  exact ⟨pre, q, app, rest, by simpa using hst, hq, hen, happ⟩

/-- A finished schedule of the sample crawl has entered the App Engine instance, three levels below
the app, and the statement holds of that entry. -/
theorem appengine_tree_only_below_active_projects_sample :
    ∃ s, Reachable (resourceMethods sampleExternals) sampleVisitor sampleCrawlTree s ∧
      s.Done ∧
      .enter [(8, 0), (0, 0), (0, 0), (0, 0), (0, 0)] sampleAppInstance
        [directoryOrg, activeProject, sampleApp, sampleAppService, sampleAppVersion] ∈ s.log ∧
      ∃ pre project app rest,
        [directoryOrg, activeProject, sampleApp, sampleAppService, sampleAppVersion,
          sampleAppInstance] = pre ++ [project, app] ++ rest ∧
        project.cls.className = "ResourceManagerProject" ∧
        ResourceManagerProject.enumerable project = .ok true ∧
        app.cls.className = "AppEngineApp" := by
  obtain ⟨s, hs, hd⟩ :=
    exists_done (start (resourceMethods sampleExternals) sampleVisitor sampleCrawlTree)
  have he := (sampleCrawl_enters hs hd).2.2.2.1
  exact ⟨s, hs, hd, he, appengine_tree_only_below_active_projects _ _ _ _ _
    sampleCrawlTree_generated sampleCrawlTree_top s hs _ _ _ he (by decide)⟩

end InventoryCrawler
