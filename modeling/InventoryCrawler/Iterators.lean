import InventoryCrawler.Factory

/-!
# The iterators with their own `iter()`

Besides the classes of `resource_iter_class_factory` (`Factory.lean`), eighteen iterator classes
write their own `iter()`. `Client` is what the API client answers to their calls. Most of them
make one listing call, inside `try: ... except ResourceNotSupported`, and yield a resource of one
class per record (`createListed`); they differ in where the call's arguments come from:
- `ResourceManagerProjectIterator`: the resource's `type()` and `key()`, read before the `try`.
- the App Engine iterators: the `id` of the resource, of its parent and of its parent's parent;
  `AppEngineAppIterator` fetches one app, when the project is `enumerable()`, and yields it unless
  it is empty.
- the Bigtable iterators: nothing unless `getattr(self.resource, 'instance_id', '')` is a
  non-empty string (`bigtableIter_of_empty`).
- the G Suite iterators: the organization's `owner.directoryCustomerId`, when it has one. The
  members of a group are yielded as user or group members by their `type`, and a member without a
  `type` ends the generator (`GsuiteMemberIterator.loop_spec`).
- the Kubernetes iterators: the project, zone and name of the cluster, read through `parent()`,
  and for the iterators of a namespace its `metadata.name`.

Every one of them yields only resources made by `create_new`, never a root (`mem_createListed`).
-/

namespace InventoryCrawler

open ComputeInstanceGroupIterator (caught)

/-- What the API client answers to the iterators' calls, by method and the values of its
arguments, in the order the call writes them. A listing method yields records, in order, and may
raise after them; a fetch method returns one record or raises. The records' metadata is not
modelled. -/
structure Client where
  /-- A listing method: the records it yields and the exception it ends with. -/
  list : String → List Value → List Data × Option Exn
  /-- A method that returns one record. -/
  fetch : String → List Value → Except Exn Data
  /-- `fetch_compute_ig_instances(project_number, name, zone=, region=)`: the instance URLs. -/
  igInstances : List Value → Except Exn Value
  /-- The calls of `from_root_id`. -/
  roots : RootClient

/-- `try: for data, metadata in gcp.<method>(*args): yield FACTORIES[...].create_new(data)
except ResourceNotSupported`, with the arguments read inside the `try`: what the loop yields and
the exception that ends it. -/
def createListed (client : Client) (method : String) (args : Except Exn (List Value))
    (cls : ResourceClass) : List Resource × Option Exn :=
  match args with
  | .ok vs => ((client.list method vs).1.map cls.createNew, caught (client.list method vs).2)
  | .error e => ([], caught (some e))

/-! ### Projects and App Engine -/

/-- `ResourceManagerProjectIterator.iter()` on a folder or an organization: the projects of
`iter_crm_projects(parent_type=self.resource.type(), parent_id=self.resource.key())`; the key is
read before the `try`, so none of its exceptions is caught. -/
def ResourceManagerProjectIterator.iter (x : Externals) (client : Client) (r : Resource)
    (stack : List Resource) : List Resource × Option Exn :=
  match (resourceMethods x).key r stack with
  | .error e => ([], some e)
  | .ok parentId =>
    createListed client "iter_crm_projects" (.ok [.str r.cls.type, .str parentId]) .project

/-- `AppEngineAppIterator.iter()`: when `self.resource.enumerable()`, the app of
`fetch_gae_app(project_id=self.resource['projectId'])`, unless it is empty. -/
def AppEngineAppIterator.iter (client : Client) (r : Resource) (a : Attrs) :
    List Resource × Option Exn :=
  match validationCheck r a "enumerable" with
  | .error e => ([], some e)
  | .ok enumerable =>
    if enumerable.truthy then
      match (do client.fetch "fetch_gae_app" [← r.data.getItem "projectId"] : Except Exn Data) with
      | .ok data =>
        (if (Value.obj data).truthy then [ResourceClass.appengineApp.createNew data] else [], none)
      | .error e => ([], caught (some e))
    else ([], none)

/-- `AppEngineServiceIterator.iter()`: `iter_gae_services(project_id=self.resource['id'])`. -/
def AppEngineServiceIterator.iter (client : Client) (r : Resource) : List Resource × Option Exn :=
  createListed client "iter_gae_services" (do pure [← r.data.getItem "id"]) .appengineService

/-- `AppEngineVersionIterator.iter()`: `iter_gae_versions(project_id=self.resource.parent()['id'],
service_id=self.resource['id'])`. -/
def AppEngineVersionIterator.iter (x : Externals) (client : Client) (r : Resource)
    (stack : List Resource) : List Resource × Option Exn :=
  createListed client "iter_gae_versions"
    (do pure [← parentItem x r stack "id", ← r.data.getItem "id"]) .appengineVersion

/-- `AppEngineInstanceIterator.iter()`: `iter_gae_instances` with the `id` of the app above the
service above the version, of the service, and of the version. -/
def AppEngineInstanceIterator.iter (x : Externals) (client : Client) (r : Resource)
    (stack : List Resource) : List Resource × Option Exn :=
  createListed client "iter_gae_instances"
    (do pure [← grandparentItem x r stack "id", ← parentItem x r stack "id",
      ← r.data.getItem "id"]) .appengineInstance

/-! ### Bigtable -/

/-- `BigtableInstance.instance_id`: `self['name'].split('/')[-1]`. -/
def BigtableInstance.instanceId (r : Resource) : Except Exn String := do
  pure (afterLastSlash (← (← r.data.getItem "name").asStr "split"))

/-- `getattr(self.resource, 'instance_id', '')`: the instance id of a Bigtable instance, and `''`
for a resource of another class or for a name that is not a string, whose `split` raises the
`AttributeError` that `getattr` turns into the default. A missing name raises `KeyError`. -/
def instanceIdOrDefault (r : Resource) : Except Exn String :=
  if r.cls.className = "BigtableInstance" then
    match BigtableInstance.instanceId r with
    | .error (.attributeError _) => .ok ""
    | res => res
  else .ok ""

/-- The body of `BigtableClusterIterator.iter()` and `BigtableTableIterator.iter()`, with the
client method and the class they create: nothing when the instance id is empty; otherwise the
records of `method(project_id=self.resource.parent()['projectId'], instance_id=...)`. -/
def bigtableIter (method : String) (cls : ResourceClass) (x : Externals) (client : Client)
    (r : Resource) (stack : List Resource) : List Resource × Option Exn :=
  match instanceIdOrDefault r with
  | .error e => ([], some e)
  | .ok instanceId =>
    if instanceId = "" then ([], none)
    else createListed client method
      (do pure [← parentItem x r stack "projectId", .str instanceId]) cls

/-- `BigtableClusterIterator.iter()`. -/
def BigtableClusterIterator.iter (x : Externals) (client : Client) (r : Resource)
    (stack : List Resource) : List Resource × Option Exn :=
  bigtableIter "iter_bigtable_clusters" .bigtableCluster x client r stack

/-- `BigtableTableIterator.iter()`. -/
def BigtableTableIterator.iter (x : Externals) (client : Client) (r : Resource)
    (stack : List Resource) : List Resource × Option Exn :=
  bigtableIter "iter_bigtable_tables" .bigtableTable x client r stack

/-! ### G Suite -/

/-- `ResourceManagerOrganization.has_directory_resource_id()`:
`'owner' in self._data and 'directoryCustomerId' in self['owner']`. -/
def ResourceManagerOrganization.hasDirectoryResourceId (r : Resource) : Except Exn Bool :=
  match r.data.lookup "owner" with
  | some owner => owner.containsStr "directoryCustomerId"
  | none => .ok false

/-- The body of `GsuiteGroupIterator.iter()` and `GsuiteUserIterator.iter()`, with the client
method and the class they create: when the organization `has_directory_resource_id()`, the
records of `method(self.resource['owner']['directoryCustomerId'])`. Only an organization has the
method. -/
def gsuiteDirectoryIter (method : String) (cls : ResourceClass) (client : Client) (r : Resource) :
    List Resource × Option Exn :=
  match (if r.cls.className = "ResourceManagerOrganization" then
      ResourceManagerOrganization.hasDirectoryResourceId r
    else .error (.attributeError ("'" ++ r.cls.className ++
      "' object has no attribute 'has_directory_resource_id'"))) with
  | .error e => ([], some e)
  | .ok false => ([], none)
  | .ok true => createListed client method
      (do pure [← (← r.data.getItem "owner").getItem "directoryCustomerId"]) cls

/-- `GsuiteGroupIterator.iter()`. -/
def GsuiteGroupIterator.iter (client : Client) (r : Resource) : List Resource × Option Exn :=
  gsuiteDirectoryIter "iter_gsuite_groups" .gsuiteGroup client r

/-- `GsuiteUserIterator.iter()`. -/
def GsuiteUserIterator.iter (client : Client) (r : Resource) : List Resource × Option Exn :=
  gsuiteDirectoryIter "iter_gsuite_users" .gsuiteUser client r

/-- A member of a group by its `type`: a `gsuite_user_member` for `'USER'`, a
`gsuite_group_member` for `'GROUP'`, nothing for any other value. -/
def GsuiteMemberIterator.memberOf (data : Data) : Value → Option Resource
  | .str "USER" => some (ResourceClass.gsuiteUserMember.createNew data)
  | .str "GROUP" => some (ResourceClass.gsuiteGroupMember.createNew data)
  | _ => none

/-- The loop of `GsuiteMemberIterator.iter()` over the members listed: each member is yielded by
its type; reading `data['type']` of a member without one raises `KeyError`, which ends the
generator; after the last member comes the listing's own exception, if any. -/
def GsuiteMemberIterator.loop (raises : Option Exn) : List Data → List Resource × Option Exn
  | [] => ([], raises)
  | data :: rest =>
    match (Value.obj data).getItem "type" with
    | .error e => ([], some e)
    | .ok t =>
      match GsuiteMemberIterator.memberOf data t with
      | some m => (m :: (GsuiteMemberIterator.loop raises rest).1,
          (GsuiteMemberIterator.loop raises rest).2)
      | none => GsuiteMemberIterator.loop raises rest

/-- `GsuiteMemberIterator.iter()`: the loop over `iter_gsuite_group_members(self.resource['id'])`,
inside `try: ... except ResourceNotSupported`. -/
def GsuiteMemberIterator.iter (client : Client) (r : Resource) : List Resource × Option Exn :=
  match r.data.getItem "id" with
  | .error e => ([], caught (some e))
  | .ok id =>
    ((GsuiteMemberIterator.loop (client.list "iter_gsuite_group_members" [id]).2
        (client.list "iter_gsuite_group_members" [id]).1).1,
      caught (GsuiteMemberIterator.loop (client.list "iter_gsuite_group_members" [id]).2
        (client.list "iter_gsuite_group_members" [id]).1).2)

/-- `GsuiteGroupsSettingsIterator.iter()`: the settings of
`fetch_gsuite_groups_settings(self.resource['email'])`. -/
def GsuiteGroupsSettingsIterator.iter (client : Client) (r : Resource) :
    List Resource × Option Exn :=
  match (do client.fetch "fetch_gsuite_groups_settings" [← r.data.getItem "email"] :
      Except Exn Data) with
  | .ok data => ([ResourceClass.gsuiteGroupsSettings.createNew data], none)
  | .error e => ([], caught (some e))

/-! ### Kubernetes -/

/-- The body of the four iterators of a cluster, with the client method and the class they
create: `method(project_id=self.resource.parent()['projectId'], zone=self.resource['zone'],
cluster=self.resource['name'])`. -/
def kubernetesClusterIter (method : String) (cls : ResourceClass) (x : Externals) (client : Client)
    (r : Resource) (stack : List Resource) : List Resource × Option Exn :=
  createListed client method
    (do pure [← parentItem x r stack "projectId", ← r.data.getItem "zone",
      ← r.data.getItem "name"]) cls

/-- The body of the three iterators of a namespace, with the client method and the class they
create: `method(project_id=self.resource.parent().parent()['projectId'],
zone=self.resource.parent()['zone'], cluster=self.resource.parent()['name'],
namespace=self.resource['metadata']['name'])`. -/
def kubernetesNamespaceIter (method : String) (cls : ResourceClass) (x : Externals)
    (client : Client) (r : Resource) (stack : List Resource) : List Resource × Option Exn :=
  createListed client method
    (do pure [← grandparentItem x r stack "projectId", ← parentItem x r stack "zone",
      ← parentItem x r stack "name", ← (← r.data.getItem "metadata").getItem "name"]) cls

/-- `KubernetesNodeIterator.iter()`. -/
def KubernetesNodeIterator.iter (x : Externals) (client : Client) (r : Resource)
    (stack : List Resource) : List Resource × Option Exn :=
  kubernetesClusterIter "iter_kubernetes_nodes" .kubernetesNode x client r stack

/-- `KubernetesNamespaceIterator.iter()`. -/
def KubernetesNamespaceIterator.iter (x : Externals) (client : Client) (r : Resource)
    (stack : List Resource) : List Resource × Option Exn :=
  kubernetesClusterIter "iter_kubernetes_namespaces" .kubernetesNamespace x client r stack

/-- `KubernetesClusterRoleIterator.iter()`. -/
def KubernetesClusterRoleIterator.iter (x : Externals) (client : Client) (r : Resource)
    (stack : List Resource) : List Resource × Option Exn :=
  kubernetesClusterIter "iter_kubernetes_clusterroles" .kubernetesClusterRole x client r stack

/-- `KubernetesClusterRoleBindingIterator.iter()`. -/
def KubernetesClusterRoleBindingIterator.iter (x : Externals) (client : Client) (r : Resource)
    (stack : List Resource) : List Resource × Option Exn :=
  kubernetesClusterIter "iter_kubernetes_clusterrolebindings" .kubernetesClusterRoleBinding x
    client r stack

/-- `KubernetesPodIterator.iter()`. -/
def KubernetesPodIterator.iter (x : Externals) (client : Client) (r : Resource)
    (stack : List Resource) : List Resource × Option Exn :=
  kubernetesNamespaceIter "iter_kubernetes_pods" .kubernetesPod x client r stack

/-- `KubernetesRoleIterator.iter()`. -/
def KubernetesRoleIterator.iter (x : Externals) (client : Client) (r : Resource)
    (stack : List Resource) : List Resource × Option Exn :=
  kubernetesNamespaceIter "iter_kubernetes_roles" .kubernetesRole x client r stack

/-- `KubernetesRoleBindingIterator.iter()`. -/
def KubernetesRoleBindingIterator.iter (x : Externals) (client : Client) (r : Resource)
    (stack : List Resource) : List Resource × Option Exn :=
  kubernetesNamespaceIter "iter_kubernetes_rolebindings" .kubernetesRoleBinding x client r stack

/-! ### What the listing loops yield -/

/-- A sequence of methods returns only when each of them returns. -/
theorem except_bind_eq_ok {α β : Type} {x : Except Exn α} {f : α → Except Exn β} {b : β} :
    (x >>= f) = .ok b ↔ ∃ a, x = .ok a ∧ f a = .ok b := by
  cases x <;> simp

/-- A listing loop yields one resource of its class per record of the call, and only those. -/
theorem mem_createListed {client : Client} {method : String} {args : Except Exn (List Value)}
    {cls : ResourceClass} {c : Resource} :
    c ∈ (createListed client method args cls).1 ↔
      ∃ vs, args = .ok vs ∧ ∃ data ∈ (client.list method vs).1, c = cls.createNew data := by
  cases args with
  | ok vs => simp [createListed, eq_comm]
  | error e => simp [createListed]

/-- An empty instance id, from a resource of another class, a name that is not a string or a name
that ends with `/`, stops a Bigtable iterator before any call: it yields nothing and raises
nothing. -/
theorem bigtableIter_of_empty {method : String} {cls : ResourceClass} {x : Externals}
    {client : Client} {r : Resource} {stack : List Resource} (h : instanceIdOrDefault r = .ok "") :
    bigtableIter method cls x client r stack = ([], none) := by
  simp [bigtableIter, h]

/-- A G Suite directory iterator yields something only on an organization whose
`has_directory_resource_id()` is true, and then only the records of its call for the owner's
`directoryCustomerId`. -/
theorem mem_gsuiteDirectoryIter {method : String} {cls : ResourceClass} {client : Client}
    {r c : Resource} (h : c ∈ (gsuiteDirectoryIter method cls client r).1) :
    r.cls.className = "ResourceManagerOrganization" ∧
      ResourceManagerOrganization.hasDirectoryResourceId r = .ok true ∧
      ∃ owner, r.data.getItem "owner" = .ok owner ∧
        ∃ cid, owner.getItem "directoryCustomerId" = .ok cid ∧
          ∃ data ∈ (client.list method [cid]).1, c = cls.createNew data := by
  unfold gsuiteDirectoryIter at h
  split at h
  · simp at h
  · simp at h
  · rename_i heq
    obtain ⟨vs, hvs, data, hdata, rfl⟩ := mem_createListed.1 h
    obtain ⟨owner, ho, cid, hc, hvs⟩ := by simpa only [except_bind_eq_ok] using hvs
    obtain rfl := Except.ok.inj hvs
    by_cases hcls : r.cls.className = "ResourceManagerOrganization" <;> simp [hcls] at heq
    exact ⟨hcls, heq, owner, ho, cid, hc, data, hdata, rfl⟩

/-- On a project, the check named `enumerable` is `enumerable()`. -/
theorem validationCheck_enumerable {r : Resource} (hr : r.cls.className = "ResourceManagerProject")
    (a : Attrs) :
    validationCheck r a "enumerable" = (ResourceManagerProject.enumerable r).map .bool := by
  simp [validationCheck, hr, ResourceManagerProject.checks]

/-- `AppEngineAppIterator` yields an app only when the check `enumerable` holds, and then only the
non-empty data that `fetch_gae_app` returns for the resource's `projectId`. -/
theorem AppEngineAppIterator.mem_iter {client : Client} {r : Resource} {a : Attrs} {c : Resource}
    (h : c ∈ (iter client r a).1) :
    ∃ v, validationCheck r a "enumerable" = .ok v ∧ v.truthy = true ∧
      ∃ id data, r.data.getItem "projectId" = .ok id ∧
        client.fetch "fetch_gae_app" [id] = .ok data ∧ (Value.obj data).truthy = true ∧
        c = ResourceClass.appengineApp.createNew data := by
  unfold iter at h
  split at h
  · simp at h
  · rename_i v hv
    split_ifs at h with ht
    · split at h
      · rename_i data hf
        obtain ⟨id, hid, hf⟩ := except_bind_eq_ok.1 hf
        split_ifs at h with hd
        · exact ⟨v, hv, ht, id, data, hid, hf, hd, List.mem_singleton.1 h⟩
        · simp at h
      · simp at h
    · simp at h

/-- A Bigtable iterator yields something only on a Bigtable instance whose `instance_id` is not
empty, and then only the records of its call for the parent's `projectId` and that id. -/
theorem mem_bigtableIter {method : String} {cls : ResourceClass} {x : Externals}
    {client : Client} {r : Resource} {stack : List Resource} {c : Resource}
    (h : c ∈ (bigtableIter method cls x client r stack).1) :
    r.cls.className = "BigtableInstance" ∧ ∃ id, BigtableInstance.instanceId r = .ok id ∧ id ≠ "" ∧
      ∃ pid, parentItem x r stack "projectId" = .ok pid ∧
        ∃ data ∈ (client.list method [pid, .str id]).1, c = cls.createNew data := by
  unfold bigtableIter at h
  split at h
  · simp at h
  · rename_i id hid
    split_ifs at h with hne
    · simp at h
    · obtain ⟨vs, hvs, data, hdata, rfl⟩ := mem_createListed.1 h
      obtain ⟨pid, hp, hvs⟩ := except_bind_eq_ok.1 hvs
      obtain rfl := Except.ok.inj hvs
      unfold instanceIdOrDefault at hid
      split_ifs at hid with hc
      · split at hid
        · cases hid
          exact absurd rfl hne
        · exact ⟨hc, id, hid, hne, pid, hp, data, hdata, rfl⟩
      · cases hid
        exact absurd rfl hne

/-- Below a parent `p`, a resource that has `parent()` and is not a root reads
`self.resource.parent()[key]` from `p`. -/
theorem parentItem_append {x : Externals} {r p : Resource} {stack : List Resource} {key : String}
    (hp : r.cls.hasParent = true) (hr : r.root = false) :
    parentItem x r (stack ++ [p]) key = p.data.getItem key := by
  simp [parentItem, (resourceMethods x).parent_append r p stack hp hr]

/-- Below a grandparent `q` and a parent `p`, neither `r` nor `p` a root and both with
`parent()`, `self.resource.parent().parent()[key]` reads `q`. -/
theorem grandparentItem_append {x : Externals} {r q p : Resource} {stack : List Resource}
    {key : String} (hr : r.cls.hasParent = true ∧ r.root = false)
    (hp : p.cls.hasParent = true ∧ p.root = false) :
    grandparentItem x r (stack ++ [q] ++ [p]) key = q.data.getItem key := by
  simp only [grandparentItem, (resourceMethods x).parent_append r p _ hr.1 hr.2,
    parentItem_append hp.1 hp.2]

/-- The member loop yields the members before the first one without a `type`, each by its type,
and then raises that `KeyError`; with no such member it yields them all and ends as the listing
ends. -/
theorem GsuiteMemberIterator.loop_spec (raises : Option Exn) (records : List Data) :
    ∃ pre post, records = pre ++ post ∧
      (∀ data ∈ pre, ((Value.obj data).getItem "type").isOk = true) ∧
      (GsuiteMemberIterator.loop raises records).1 = pre.filterMap (fun data =>
        match (Value.obj data).getItem "type" with
        | .ok t => GsuiteMemberIterator.memberOf data t
        | .error _ => none) ∧
      ((post = [] ∧ (GsuiteMemberIterator.loop raises records).2 = raises) ∨
        ∃ data rest e, post = data :: rest ∧ (Value.obj data).getItem "type" = .error e ∧
          (GsuiteMemberIterator.loop raises records).2 = some e) := by
  induction records with
  | nil => exact ⟨[], [], rfl, by simp, rfl, .inl ⟨rfl, rfl⟩⟩
  | cons data records ih =>
    cases ht : (Value.obj data).getItem "type" with
    | error e =>
      refine ⟨[], data :: records, rfl, by simp, by simp [GsuiteMemberIterator.loop, ht],
        .inr ⟨data, records, e, rfl, ht, by simp [GsuiteMemberIterator.loop, ht]⟩⟩
    | ok t =>
      obtain ⟨pre, post, hrec, hok, hpre, hpost⟩ := ih
      refine ⟨data :: pre, post, by rw [hrec, List.cons_append], ?_, ?_, ?_⟩
      · simpa [ht, Except.isOk, Except.toBool] using hok
      · cases hm : GsuiteMemberIterator.memberOf data t <;>
          simp [GsuiteMemberIterator.loop, ht, hm, hpre]
      · cases hm : GsuiteMemberIterator.memberOf data t <;>
          simpa [GsuiteMemberIterator.loop, ht, hm] using hpost

/-- The members that `GsuiteMemberIterator` yields are those of records of
`iter_gsuite_group_members(self.resource['id'])` with a `type`, before the first record
without one. -/
theorem GsuiteMemberIterator.mem_iter {client : Client} {r c : Resource} (h : c ∈ (iter client r).1) :
    ∃ id, r.data.getItem "id" = .ok id ∧ ∃ before data after,
      (client.list "iter_gsuite_group_members" [id]).1 = before ++ data :: after ∧
      (∀ d ∈ before, ((Value.obj d).getItem "type").isOk = true) ∧
      ∃ t, (Value.obj data).getItem "type" = .ok t ∧ memberOf data t = some c := by
  unfold iter at h
  split at h
  · simp at h
  · rename_i id hid
    obtain ⟨pre, post, hrec, hok, hout, -⟩ := loop_spec (client.list "iter_gsuite_group_members" [id]).2
      (client.list "iter_gsuite_group_members" [id]).1
    rw [hout] at h
    obtain ⟨data, hdata, hc⟩ := List.mem_filterMap.1 h
    obtain ⟨before, after, rfl⟩ := List.append_of_mem hdata
    refine ⟨id, hid, before, data, after ++ post, by simp [hrec], fun d hd => hok d (by simp [hd]),
      ?_⟩
    split at hc
    · exact ⟨_, ‹_›, hc⟩
    · cases hc

/-! ### Everything an iterator yields is made by `create_new` -/

/-- A resource that a listing loop yields is one of the call's records, made by `create_new`. -/
theorem createListed_createNew {client : Client} {method : String} {args : Except Exn (List Value)}
    {cls : ResourceClass} {c : Resource} (h : c ∈ (createListed client method args cls).1) :
    ∃ data, c = cls.createNew data := by
  obtain ⟨_, _, data, _, rfl⟩ := mem_createListed.1 h
  exact ⟨data, rfl⟩

/-- What the project iterator yields is made by `create_new`. -/
theorem ResourceManagerProjectIterator.iter_createNew {x : Externals} {client : Client}
    {r : Resource} {stack : List Resource} {c : Resource} (h : c ∈ (iter x client r stack).1) :
    ∃ data, c = ResourceClass.project.createNew data := by
  unfold iter at h
  split at h
  · simp at h
  · exact createListed_createNew h

/-- A project that is not `enumerable()` stops `AppEngineAppIterator` before the client is
called. -/
theorem AppEngineAppIterator.iter_of_check_false {client : Client} {r : Resource} {a : Attrs}
    {v : Value} (h : validationCheck r a "enumerable" = .ok v) (hv : v.truthy = false) :
    iter client r a = ([], none) := by
  simp [iter, h, hv]

/-- `enumerable()` is called outside the `try`: what it raises ends the generator. -/
theorem AppEngineAppIterator.iter_of_check_error {client : Client} {r : Resource} {a : Attrs}
    {e : Exn} (h : validationCheck r a "enumerable" = .error e) : iter client r a = ([], some e) := by
  simp [iter, h]

/-- What the App Engine app iterator yields is made by `create_new`. -/
theorem AppEngineAppIterator.iter_createNew {client : Client} {r : Resource} {a : Attrs}
    {c : Resource} (h : c ∈ (iter client r a).1) :
    ∃ data, c = ResourceClass.appengineApp.createNew data :=
  let ⟨_, _, _, _, data, _, _, _, hc⟩ := mem_iter h
  ⟨data, hc⟩

/-- What a Bigtable iterator yields is made by `create_new`. -/
theorem bigtableIter_createNew {method : String} {cls : ResourceClass} {x : Externals}
    {client : Client} {r : Resource} {stack : List Resource} {c : Resource}
    (h : c ∈ (bigtableIter method cls x client r stack).1) : ∃ data, c = cls.createNew data :=
  let ⟨_, _, _, _, _, _, data, _, hc⟩ := mem_bigtableIter h
  ⟨data, hc⟩

/-- What a G Suite directory iterator yields is made by `create_new`. -/
theorem gsuiteDirectoryIter_createNew {method : String} {cls : ResourceClass} {client : Client}
    {r : Resource} {c : Resource} (h : c ∈ (gsuiteDirectoryIter method cls client r).1) :
    ∃ data, c = cls.createNew data :=
  let ⟨_, _, _, _, _, _, data, _, hc⟩ := mem_gsuiteDirectoryIter h
  ⟨data, hc⟩

/-- A member is yielded as a user member or a group member. -/
theorem GsuiteMemberIterator.memberOf_eq {data : Data} {t : Value} {m : Resource}
    (h : memberOf data t = some m) :
    m = ResourceClass.gsuiteUserMember.createNew data ∨
      m = ResourceClass.gsuiteGroupMember.createNew data := by
  unfold memberOf at h
  split at h <;> simp_all

/-- What the member iterator yields is a user or a group member made by `create_new`. -/
theorem GsuiteMemberIterator.iter_createNew {client : Client} {r : Resource} {c : Resource}
    (h : c ∈ (iter client r).1) :
    ∃ data, c = ResourceClass.gsuiteUserMember.createNew data ∨
      c = ResourceClass.gsuiteGroupMember.createNew data :=
  let ⟨_, _, _, data, _, _, _, _, _, hm⟩ := mem_iter h
  ⟨data, memberOf_eq hm⟩

/-- What the group settings iterator yields is made by `create_new`. -/
theorem GsuiteGroupsSettingsIterator.iter_createNew {client : Client} {r : Resource}
    {c : Resource} (h : c ∈ (iter client r).1) :
    ∃ data, c = ResourceClass.gsuiteGroupsSettings.createNew data := by
  unfold iter at h
  split at h
  · exact ⟨_, List.mem_singleton.1 h⟩
  · simp at h

/-- Every resource the generic iterator yields is a record of its listing, made by `create_new`. -/
theorem ResourceIteratorSubclass.mem_iter {f : IterFactory} {r : Resource} {a : Attrs}
    {listing : List Data × Option Exn} {c : Resource} (h : c ∈ (iter f r a listing).1) :
    ∃ data ∈ listing.1, c = f.cls.createNew data := by
  unfold iter at h
  split at h
  · simp at h
  · split at h
    · split at h
      · simp at h
      · obtain ⟨data, hd, rfl⟩ := List.mem_map.1 h
        exact ⟨data, hd, rfl⟩
    · simp at h

/-- What the loop over instance groups yields is made by `create_new`. -/
theorem ComputeInstanceGroupIterator.loop_createNew {raises : Option Exn}
    {records : List (Data × Except Exn Value)} {c : Resource} (h : c ∈ (loop raises records).1) :
    ∃ data, c = ResourceClass.computeInstanceGroup.createNew data := by
  induction records with
  | nil => simp [loop] at h
  | cons p records ih =>
    unfold loop at h
    split at h
    · rcases List.mem_cons.1 h with rfl | h
      · exact ⟨_, rfl⟩
      · exact ih h
    · simp at h

/-- What the instance group iterator yields is made by `create_new`. -/
theorem ComputeInstanceGroupIterator.iter_createNew {project : Resource} {a : Attrs}
    {answers : InstanceGroupAnswers} {c : Resource} (h : c ∈ (iter project a answers).1) :
    ∃ data, c = ResourceClass.computeInstanceGroup.createNew data := by
  unfold iter at h
  repeat' split at h
  all_goals first | exact loop_createNew h | simp at h

/-- A resource that `fetch` makes has the class and the `root` it was asked for. -/
theorem fetchWith_ok {cls : ResourceClass} {label : String} {call : String → Except Exn Data}
    {arg resourceKey : String} {root : Bool} {c : Resource}
    (h : fetchWith cls label call arg resourceKey root = .ok c) : c.cls = cls ∧ c.root = root := by
  unfold fetchWith at h
  split at h
  · cases h
    exact ⟨rfl, rfl⟩
  · split at h
    · cases h
      exact ⟨rfl, rfl⟩
    · cases h

/-- `from_root_id` makes an organization, a project or a folder, with the `root` it was asked
for. -/
theorem fromRootId_ok {client : RootClient} {rootId : String} {root : Bool} {c : Resource}
    (h : fromRootId client rootId root = .ok c) :
    (c.cls = .organization ∨ c.cls = .project ∨ c.cls = .folder) ∧ c.root = root := by
  unfold fromRootId at h
  split at h
  · rename_i func hfind
    have hmem := List.mem_of_find?_eq_some hfind
    simp only [rootMap, List.mem_cons, List.mem_singleton, List.not_mem_nil, or_false,
      Prod.mk.injEq] at hmem
    rcases hmem with ⟨-, rfl⟩ | ⟨-, rfl⟩ | ⟨-, rfl⟩
    · exact (fetchWith_ok h).imp_left .inl
    · exact (fetchWith_ok h).imp_left (.inr ∘ .inl)
    · exact (fetchWith_ok h).imp_left (.inr ∘ .inr)
  · cases h

/-- The loop of the composite root yields organizations, projects and folders, none of them a
root. -/
theorem mem_compositeRootIter {client : RootClient} {c : Resource} :
    ∀ {vs : List Value}, c ∈ (compositeRootIter client vs).1 →
      (c.cls = .organization ∨ c.cls = .project ∨ c.cls = .folder) ∧ c.root = false
  | [], h => by simp [compositeRootIter] at h
  | v :: vs, h => by
    unfold compositeRootIter at h
    split at h
    · rename_i hv
      rcases List.mem_cons.1 h with rfl | h
      · cases hs : v.asStr "startswith" with
        | error e => simp [hs] at hv
        | ok s =>
          simp only [hs, except_ok_bind] at hv
          exact fromRootId_ok hv
      · exact mem_compositeRootIter h
    · simp at h

/-- The composite root yields organizations, projects and folders, none of them a root. -/
theorem CompositeRootIterator.mem_iter {client : RootClient} {r c : Resource}
    (h : c ∈ (iter client r).1) :
    (c.cls = .organization ∨ c.cls = .project ∨ c.cls = .folder) ∧ c.root = false := by
  unfold iter at h
  split at h
  · exact mem_compositeRootIter h
  · simp at h

end InventoryCrawler
