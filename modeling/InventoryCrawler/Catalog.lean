import InventoryCrawler.Iterators

/-!
# The iterator classes of `FACTORIES`

Every `contains` list of `FACTORIES` names iterator classes. `iteratorTable` holds all of them,
each as an `IteratorClass`: its name, the classes of `FACTORIES` it yields, and its `iter()`, on a
resource under its stack, with the resource's attributes when it runs and the client's answers.
The field `iter_yields` says that everything it yields was made by `create_new` of one of those
classes, or by `from_root_id` with `root=False`, and is not a root; every entry proves it once,
from the lemmas of its body (`Iterators.lean`, `Factory.lean`).

The 67 classes of `resource_iter_class_factory` are its calls, `IterFactory` values, run with the
client's listing for the arguments they read (`IterFactory.run`); `compute_iter_class_factory`
makes 35 of them.
-/

namespace InventoryCrawler

/-- An iterator class: its name, as `contains` lists it; the classes of what it yields; the method
of the resource its `iter()` calls first, if any, outside its `try`, and that must return a true
value for anything to be listed; and its `iter()` on a resource, under the resource's stack, with
the resource's attributes when it runs and the client's answers: what it yields and the exception
it ends with. Everything it yields is of one of those classes, and none of it is a root; a false
value of the method ends the iterator with nothing, and an exception of it ends the iterator with
that exception. -/
structure IteratorClass where
  name : String
  yields : List ResourceClass
  gate : Option String
  iter : Externals → Client → Resource → List Resource → Attrs → List Resource × Option Exn
  iter_yields : ∀ x client r stack a, ∀ c ∈ (iter x client r stack a).1,
    c.root = false ∧ c.cls ∈ yields
  iter_gate : ∀ x client r stack a name v, gate = some name → validationCheck r a name = .ok v →
    v.truthy = false → iter x client r stack a = ([], none)
  iter_gate_error : ∀ x client r stack a name e, gate = some name →
    validationCheck r a name = .error e → iter x client r stack a = ([], some e)

/-- An iterator class yields something only when its method, if it has one, returned a true
value. -/
theorem IteratorClass.check_passed (e : IteratorClass) {x : Externals} {client : Client}
    {r : Resource} {stack : List Resource} {a : Attrs} {c : Resource}
    (hc : c ∈ (e.iter x client r stack a).1) {name : String} (hg : e.gate = some name) :
    ∃ v, validationCheck r a name = .ok v ∧ v.truthy = true := by
  cases hv : validationCheck r a name with
  | error err => simp [e.iter_gate_error x client r stack a name err hg hv] at hc
  | ok v =>
    refine ⟨v, rfl, ?_⟩
    cases ht : v.truthy
    · simp [e.iter_gate x client r stack a name v hg hv ht] at hc
    · rfl

/-- An iterator class that checks nothing first and yields resources made by `create_new` of one
class only. -/
def IteratorClass.ofOne (name : String) (cls : ResourceClass)
    (iter : Externals → Client → Resource → List Resource → Attrs → List Resource × Option Exn)
    (hiter : ∀ x client r stack a, ∀ c ∈ (iter x client r stack a).1,
      ∃ data, c = cls.createNew data) : IteratorClass where
  name := name
  yields := [cls]
  gate := none
  iter := iter
  iter_yields x client r stack a c hc := by
    obtain ⟨data, rfl⟩ := hiter x client r stack a c hc
    exact ⟨rfl, List.mem_singleton_self _⟩
  iter_gate _ _ _ _ _ _ _ h := nomatch h
  iter_gate_error _ _ _ _ _ _ _ h := nomatch h

/-- The `iter()` of the class that `resource_iter_class_factory` makes, with the client's listing
for the arguments it reads; when they cannot be read, the client is not called. -/
def IterFactory.run (f : IterFactory) (client : Client) (r : Resource) (a : Attrs) :
    List Resource × Option Exn :=
  ResourceIteratorSubclass.iter f r a (match f.args r with
    | .ok args => client.list f.apiMethodName args
    | .error _ => ([], none))

/-- The iterator class of a call of `resource_iter_class_factory`, named as its subclass is, gated
by its `resource_validation_method_name`. -/
def IteratorClass.ofFactory (name : String) (f : IterFactory) : IteratorClass where
  name := name
  yields := [f.cls]
  gate := f.resourceValidationMethodName
  iter _ client r _ a := f.run client r a
  iter_yields _ _ _ _ _ _ hc := by
    obtain ⟨_, -, rfl⟩ := ResourceIteratorSubclass.mem_iter hc
    exact ⟨rfl, List.mem_singleton_self _⟩
  iter_gate _ _ _ _ _ _ _ hg hv hf :=
    ResourceIteratorSubclass.iter_of_check_false _ (by simp [IterFactory.check, hg, hv]) hf
  iter_gate_error _ _ _ _ _ _ _ hg hv :=
    ResourceIteratorSubclass.iter_of_check_error _ (by simp [IterFactory.check, hg, hv])

/-- `AppEngineAppIterator`, gated by `enumerable()`. -/
def IteratorClass.appEngineApp : IteratorClass where
  name := "AppEngineAppIterator"
  yields := [.appengineApp]
  gate := some "enumerable"
  iter _ client r _ a := AppEngineAppIterator.iter client r a
  iter_yields _ _ _ _ _ _ hc := by
    obtain ⟨_, rfl⟩ := AppEngineAppIterator.iter_createNew hc
    exact ⟨rfl, List.mem_singleton_self _⟩
  iter_gate _ _ _ _ _ _ _ hg hv hf := by
    cases hg
    exact AppEngineAppIterator.iter_of_check_false hv hf
  iter_gate_error _ _ _ _ _ _ _ hg hv := by
    cases hg
    exact AppEngineAppIterator.iter_of_check_error hv

/-- `CompositeRootIterator`: the roots of `composite_children`, from `from_root_id`. -/
def IteratorClass.compositeRoot : IteratorClass where
  name := "CompositeRootIterator"
  yields := [.organization, .project, .folder]
  gate := none
  iter _ client r _ _ := CompositeRootIterator.iter client.roots r
  iter_yields _ _ _ _ _ c hc := by
    obtain ⟨hcls, hroot⟩ := CompositeRootIterator.mem_iter hc
    refine ⟨hroot, ?_⟩
    rcases hcls with h | h | h <;> simp [h]
  iter_gate _ _ _ _ _ _ _ h := nomatch h
  iter_gate_error _ _ _ _ _ _ _ h := nomatch h

/-- `GsuiteMemberIterator`: user members and group members. -/
def IteratorClass.gsuiteMember : IteratorClass where
  name := "GsuiteMemberIterator"
  yields := [.gsuiteUserMember, .gsuiteGroupMember]
  gate := none
  iter _ client r _ _ := GsuiteMemberIterator.iter client r
  iter_yields _ _ _ _ _ c hc := by
    obtain ⟨data, rfl | rfl⟩ := GsuiteMemberIterator.iter_createNew hc <;>
      simp [ResourceClass.createNew]
  iter_gate _ _ _ _ _ _ _ h := nomatch h
  iter_gate_error _ _ _ _ _ _ _ h := nomatch h

/-- What `ComputeInstanceGroupIterator` gets from the client: the instance groups of
`iter_compute_instancegroups(self.resource['projectNumber'])`, each with the answer of
`fetch_compute_ig_instances` for its arguments. -/
def Client.instanceGroupAnswers (client : Client) (project : Resource) : InstanceGroupAnswers :=
  match project.data.getItem "projectNumber" with
  | .ok number =>
    ⟨(client.list "iter_compute_instancegroups" [number]).1.map fun data =>
      (data, match ComputeInstanceGroupIterator.callArgs data with
        | .ok (name, zone, region) => client.igInstances [number, name, .str zone, .str region]
        | .error e => .error e),
     (client.list "iter_compute_instancegroups" [number]).2⟩
  | .error _ => ⟨[], none⟩

/-! ### The calls of `resource_iter_class_factory` -/

/-- `AccessLevelIterator`. -/
def accessLevelIterator : IterFactory where
  apiMethodName := "iter_crm_organization_access_levels"
  cls := .accessLevel
  apiMethodArgKey := some "name"

/-- `ServicePerimeterIterator`. -/
def servicePerimeterIterator : IterFactory where
  apiMethodName := "fetch_crm_organization_service_perimeter"
  cls := .servicePerimeter
  apiMethodArgKey := some "name"

/-- `ResourceManagerFolderIterator`. -/
def resourceManagerFolderIterator : IterFactory where
  apiMethodName := "iter_crm_folders"
  cls := .folder
  apiMethodArgKey := some "name"

/-- `ResourceManagerFolderOrgPolicyIterator`. -/
def resourceManagerFolderOrgPolicyIterator : IterFactory where
  apiMethodName := "iter_crm_folder_org_policies"
  cls := .orgPolicy
  apiMethodArgKey := some "name"

/-- `ResourceManagerOrganizationOrgPolicyIterator`. -/
def resourceManagerOrganizationOrgPolicyIterator : IterFactory where
  apiMethodName := "iter_crm_organization_org_policies"
  cls := .orgPolicy
  apiMethodArgKey := some "name"

/-- `ResourceManagerProjectOrgPolicyIterator`. -/
def resourceManagerProjectOrgPolicyIterator : IterFactory where
  apiMethodName := "iter_crm_project_org_policies"
  cls := .orgPolicy
  apiMethodArgKey := some "projectNumber"

/-- `BigqueryDataSetIterator`. -/
def bigqueryDataSetIterator : IterFactory where
  apiMethodName := "iter_bigquery_datasets"
  cls := .bigqueryDataset
  apiMethodArgKey := some "projectNumber"

/-- `BigqueryTableIterator`. -/
def bigqueryTableIterator : IterFactory where
  apiMethodName := "iter_bigquery_tables"
  cls := .bigqueryTable
  apiMethodArgKey := some "datasetReference"

/-- `BigtableInstanceIterator`. -/
def bigtableInstanceIterator : IterFactory where
  apiMethodName := "iter_bigtable_instances"
  cls := .bigtableInstance
  apiMethodArgKey := some "projectNumber"

/-- `BillingAccountIterator`. -/
def billingAccountIterator : IterFactory where
  apiMethodName := "iter_billing_accounts"
  cls := .billingAccount

/-- `ResourceManagerOrganizationAccessPolicyIterator`. -/
def resourceManagerOrganizationAccessPolicyIterator : IterFactory where
  apiMethodName := "iter_crm_org_access_policies"
  cls := .accessPolicy
  apiMethodArgKey := some "name"

/-- `CloudSqlInstanceIterator`. -/
def cloudSqlInstanceIterator : IterFactory where
  apiMethodName := "iter_cloudsql_instances"
  cls := .cloudSqlInstance
  apiMethodArgKey := some "projectId"
  additionalArgKeys := ["projectNumber"]
  resourceValidationMethodName := some "enumerable"

/-- `ComputeAddressIterator`. -/
def computeAddressIterator : IterFactory :=
  computeIterClassFactory "iter_compute_address" .computeAddress

/-- `ComputeAutoscalerIterator`. -/
def computeAutoscalerIterator : IterFactory :=
  computeIterClassFactory "iter_compute_autoscalers" .computeAutoscaler

/-- `ComputeBackendBucketIterator`. -/
def computeBackendBucketIterator : IterFactory :=
  computeIterClassFactory "iter_compute_backendbuckets" .computeBackendBucket

/-- `ComputeBackendServiceIterator`. -/
def computeBackendServiceIterator : IterFactory :=
  computeIterClassFactory "iter_compute_backendservices" .computeBackendService

/-- `ComputeDiskIterator`. -/
def computeDiskIterator : IterFactory :=
  computeIterClassFactory "iter_compute_disks" .computeDisk

/-- `ComputeFirewallIterator`. -/
def computeFirewallIterator : IterFactory :=
  computeIterClassFactory "iter_compute_firewalls" .computeFirewall

/-- `ComputeForwardingRuleIterator`. -/
def computeForwardingRuleIterator : IterFactory :=
  computeIterClassFactory "iter_compute_forwardingrules" .computeForwardingRule

/-- `ComputeHealthCheckIterator`. -/
def computeHealthCheckIterator : IterFactory :=
  computeIterClassFactory "iter_compute_healthchecks" .computeHealthCheck

/-- `ComputeHttpHealthCheckIterator`. -/
def computeHttpHealthCheckIterator : IterFactory :=
  computeIterClassFactory "iter_compute_httphealthchecks" .computeHttpHealthCheck

/-- `ComputeHttpsHealthCheckIterator`. -/
def computeHttpsHealthCheckIterator : IterFactory :=
  computeIterClassFactory "iter_compute_httpshealthchecks" .computeHttpsHealthCheck

/-- `ComputeImageIterator`. -/
def computeImageIterator : IterFactory :=
  computeIterClassFactory "iter_compute_images" .computeImage

/-- `ComputeInstanceGroupManagerIterator`. -/
def computeInstanceGroupManagerIterator : IterFactory :=
  computeIterClassFactory "iter_compute_ig_managers" .computeInstanceGroupManager

/-- `ComputeInstanceTemplateIterator`. -/
def computeInstanceTemplateIterator : IterFactory :=
  computeIterClassFactory "iter_compute_instancetemplates" .computeInstanceTemplate

/-- `ComputeInterconnectIterator`. -/
def computeInterconnectIterator : IterFactory :=
  computeIterClassFactory "iter_compute_interconnects" .computeInterconnect

/-- `ComputeInterconnectAttachmentIterator`. -/
def computeInterconnectAttachmentIterator : IterFactory :=
  computeIterClassFactory "iter_compute_interconnect_attachments" .computeInterconnectAttachment

/-- `ComputeLicenseIterator`. -/
def computeLicenseIterator : IterFactory :=
  computeIterClassFactory "iter_compute_licenses" .computeLicense

/-- `ComputeNetworkIterator`. -/
def computeNetworkIterator : IterFactory :=
  computeIterClassFactory "iter_compute_networks" .computeNetwork

/-- `ComputeProjectIterator`. -/
def computeProjectIterator : IterFactory :=
  computeIterClassFactory "iter_compute_project" .computeProject

/-- `ComputeRouterIterator`. -/
def computeRouterIterator : IterFactory :=
  computeIterClassFactory "iter_compute_routers" .computeRouter

/-- `ComputeSecurityPolicyIterator`. -/
def computeSecurityPolicyIterator : IterFactory :=
  computeIterClassFactory "iter_compute_securitypolicies" .computeSecurityPolicy

/-- `ComputeSnapshotIterator`. -/
def computeSnapshotIterator : IterFactory :=
  computeIterClassFactory "iter_compute_snapshots" .computeSnapshot

/-- `ComputeSslCertificateIterator`. -/
def computeSslCertificateIterator : IterFactory :=
  computeIterClassFactory "iter_compute_sslcertificates" .computeSslCertificate

/-- `ComputeSubnetworkIterator`. -/
def computeSubnetworkIterator : IterFactory :=
  computeIterClassFactory "iter_compute_subnetworks" .computeSubnetwork

/-- `ComputeTargetHttpProxyIterator`. -/
def computeTargetHttpProxyIterator : IterFactory :=
  computeIterClassFactory "iter_compute_targethttpproxies" .computeTargetHttpProxy

/-- `ComputeTargetHttpsProxyIterator`. -/
def computeTargetHttpsProxyIterator : IterFactory :=
  computeIterClassFactory "iter_compute_targethttpsproxies" .computeTargetHttpsProxy

/-- `ComputeTargetInstanceIterator`. -/
def computeTargetInstanceIterator : IterFactory :=
  computeIterClassFactory "iter_compute_targetinstances" .computeTargetInstance

/-- `ComputeTargetPoolIterator`. -/
def computeTargetPoolIterator : IterFactory :=
  computeIterClassFactory "iter_compute_targetpools" .computeTargetPool

/-- `ComputeTargetSslProxyIterator`. -/
def computeTargetSslProxyIterator : IterFactory :=
  computeIterClassFactory "iter_compute_targetsslproxies" .computeTargetSslProxy

/-- `ComputeTargetTcpProxyIterator`. -/
def computeTargetTcpProxyIterator : IterFactory :=
  computeIterClassFactory "iter_compute_targettcpproxies" .computeTargetTcpProxy

/-- `ComputeTargetVpnGatewayIterator`. -/
def computeTargetVpnGatewayIterator : IterFactory :=
  computeIterClassFactory "iter_compute_targetvpngateways" .computeTargetVpnGateway

/-- `ComputeUrlMapIterator`. -/
def computeUrlMapIterator : IterFactory :=
  computeIterClassFactory "iter_compute_urlmaps" .computeUrlMap

/-- `ComputeVpnTunnelIterator`. -/
def computeVpnTunnelIterator : IterFactory :=
  computeIterClassFactory "iter_compute_vpntunnels" .computeVpnTunnel

/-- `DataprocClusterIterator`. -/
def dataprocClusterIterator : IterFactory where
  apiMethodName := "iter_dataproc_clusters"
  cls := .dataprocCluster
  apiMethodArgKey := some "projectId"
  resourceValidationMethodName := some "enumerable"

/-- `DnsManagedZoneIterator`. -/
def dnsManagedZoneIterator : IterFactory where
  apiMethodName := "iter_dns_managedzones"
  cls := .dnsManagedZone
  apiMethodArgKey := some "projectNumber"
  resourceValidationMethodName := some "enumerable"

/-- `DnsPolicyIterator`. -/
def dnsPolicyIterator : IterFactory where
  apiMethodName := "iter_dns_policies"
  cls := .dnsPolicy
  apiMethodArgKey := some "projectNumber"
  resourceValidationMethodName := some "enumerable"

/-- `IamOrganizationCuratedRoleIterator`. -/
def iamOrganizationCuratedRoleIterator : IterFactory where
  apiMethodName := "iter_iam_curated_roles"
  cls := .iamCuratedRole

/-- `IamOrganizationRoleIterator`. -/
def iamOrganizationRoleIterator : IterFactory where
  apiMethodName := "iter_iam_organization_roles"
  cls := .iamRole
  apiMethodArgKey := some "name"

/-- `IamProjectRoleIterator`. -/
def iamProjectRoleIterator : IterFactory where
  apiMethodName := "iter_iam_project_roles"
  cls := .iamRole
  apiMethodArgKey := some "projectId"
  additionalArgKeys := ["projectNumber"]
  resourceValidationMethodName := some "enumerable"

/-- `IamServiceAccountIterator`. -/
def iamServiceAccountIterator : IterFactory where
  apiMethodName := "iter_iam_serviceaccounts"
  cls := .iamServiceAccount
  apiMethodArgKey := some "projectId"
  additionalArgKeys := ["projectNumber"]
  resourceValidationMethodName := some "enumerable"

/-- `IamServiceAccountKeyIterator`. -/
def iamServiceAccountKeyIterator : IterFactory where
  apiMethodName := "iter_iam_serviceaccount_keys"
  cls := .iamServiceAccountKey
  apiMethodArgKey := some "projectId"
  additionalArgKeys := ["uniqueId"]

/-- `KmsKeyRingIterator`. -/
def kmsKeyRingIterator : IterFactory where
  apiMethodName := "iter_kms_keyrings"
  cls := .kmsKeyRing
  apiMethodArgKey := some "projectId"
  resourceValidationMethodName := some "enumerable"

/-- `KmsCryptoKeyIterator`. -/
def kmsCryptoKeyIterator : IterFactory where
  apiMethodName := "iter_kms_cryptokeys"
  cls := .kmsCryptoKey
  apiMethodArgKey := some "name"

/-- `KmsCryptoKeyVersionIterator`. -/
def kmsCryptoKeyVersionIterator : IterFactory where
  apiMethodName := "iter_kms_cryptokeyversions"
  cls := .kmsCryptoKeyVersion
  apiMethodArgKey := some "name"

/-- `LoggingBillingAccountSinkIterator`. -/
def loggingBillingAccountSinkIterator : IterFactory where
  apiMethodName := "iter_stackdriver_billing_account_sinks"
  cls := .loggingSink
  apiMethodArgKey := some "name"

/-- `LoggingFolderSinkIterator`. -/
def loggingFolderSinkIterator : IterFactory where
  apiMethodName := "iter_stackdriver_folder_sinks"
  cls := .loggingSink
  apiMethodArgKey := some "name"

/-- `LoggingOrganizationSinkIterator`. -/
def loggingOrganizationSinkIterator : IterFactory where
  apiMethodName := "iter_stackdriver_organization_sinks"
  cls := .loggingSink
  apiMethodArgKey := some "name"

/-- `LoggingProjectSinkIterator`. -/
def loggingProjectSinkIterator : IterFactory where
  apiMethodName := "iter_stackdriver_project_sinks"
  cls := .loggingSink
  apiMethodArgKey := some "projectNumber"
  resourceValidationMethodName := some "enumerable"

/-- `PubsubSubscriptionIterator`. -/
def pubsubSubscriptionIterator : IterFactory where
  apiMethodName := "iter_pubsub_subscriptions"
  cls := .pubsubSubscription
  apiMethodArgKey := some "projectId"
  additionalArgKeys := ["projectNumber"]
  resourceValidationMethodName := some "enumerable"

/-- `PubsubTopicIterator`. -/
def pubsubTopicIterator : IterFactory where
  apiMethodName := "iter_pubsub_topics"
  cls := .pubsubTopic
  apiMethodArgKey := some "projectId"
  additionalArgKeys := ["projectNumber"]
  resourceValidationMethodName := some "enumerable"

/-- `ResourceManagerProjectLienIterator`. -/
def resourceManagerProjectLienIterator : IterFactory where
  apiMethodName := "iter_crm_project_liens"
  cls := .lien
  apiMethodArgKey := some "projectNumber"
  resourceValidationMethodName := some "enumerable"

/-- `ServiceUsageServiceIterator`. -/
def serviceUsageServiceIterator : IterFactory where
  apiMethodName := "iter_serviceusage_services"
  cls := .serviceUsageService
  apiMethodArgKey := some "projectNumber"

/-- `SpannerDatabaseIterator`. -/
def spannerDatabaseIterator : IterFactory where
  apiMethodName := "iter_spanner_databases"
  cls := .spannerDatabase
  apiMethodArgKey := some "name"

/-- `SpannerInstanceIterator`. -/
def spannerInstanceIterator : IterFactory where
  apiMethodName := "iter_spanner_instances"
  cls := .spannerInstance
  apiMethodArgKey := some "projectNumber"
  resourceValidationMethodName := some "enumerable"

/-- `StorageBucketIterator`. -/
def storageBucketIterator : IterFactory where
  apiMethodName := "iter_storage_buckets"
  cls := .storageBucket
  apiMethodArgKey := some "projectNumber"

/-- `StorageObjectIterator`. -/
def storageObjectIterator : IterFactory where
  apiMethodName := "iter_storage_objects"
  cls := .storageObject
  apiMethodArgKey := some "id"

/-! ### The table -/

/-- Every iterator class of `resources.py`, in the order the file defines them. -/
def iteratorTable : List IteratorClass :=
  [IteratorClass.compositeRoot,
    IteratorClass.ofFactory "AccessLevelIterator" accessLevelIterator,
    IteratorClass.ofFactory "ServicePerimeterIterator" servicePerimeterIterator,
    IteratorClass.ofFactory "ResourceManagerFolderIterator" resourceManagerFolderIterator,
    IteratorClass.ofFactory "ResourceManagerFolderOrgPolicyIterator" resourceManagerFolderOrgPolicyIterator,
    IteratorClass.ofFactory "ResourceManagerOrganizationOrgPolicyIterator" resourceManagerOrganizationOrgPolicyIterator,
    IteratorClass.ofOne "ResourceManagerProjectIterator" ResourceClass.project
      (fun x client r stack _ => ResourceManagerProjectIterator.iter x client r stack)
      fun _ _ _ _ _ _ h => ResourceManagerProjectIterator.iter_createNew h,
    IteratorClass.ofFactory "ResourceManagerProjectOrgPolicyIterator" resourceManagerProjectOrgPolicyIterator,
    IteratorClass.appEngineApp,
    IteratorClass.ofOne "AppEngineServiceIterator" ResourceClass.appengineService
      (fun _ client r _ _ => AppEngineServiceIterator.iter client r)
      fun _ _ _ _ _ _ h => createListed_createNew h,
    IteratorClass.ofOne "AppEngineVersionIterator" ResourceClass.appengineVersion
      (fun x client r stack _ => AppEngineVersionIterator.iter x client r stack)
      fun _ _ _ _ _ _ h => createListed_createNew h,
    IteratorClass.ofOne "AppEngineInstanceIterator" ResourceClass.appengineInstance
      (fun x client r stack _ => AppEngineInstanceIterator.iter x client r stack)
      fun _ _ _ _ _ _ h => createListed_createNew h,
    IteratorClass.ofFactory "BigqueryDataSetIterator" bigqueryDataSetIterator,
    IteratorClass.ofFactory "BigqueryTableIterator" bigqueryTableIterator,
    IteratorClass.ofOne "BigtableClusterIterator" ResourceClass.bigtableCluster
      (fun x client r stack _ => BigtableClusterIterator.iter x client r stack)
      fun _ _ _ _ _ _ h => bigtableIter_createNew h,
    IteratorClass.ofFactory "BigtableInstanceIterator" bigtableInstanceIterator,
    IteratorClass.ofOne "BigtableTableIterator" ResourceClass.bigtableTable
      (fun x client r stack _ => BigtableTableIterator.iter x client r stack)
      fun _ _ _ _ _ _ h => bigtableIter_createNew h,
    IteratorClass.ofFactory "BillingAccountIterator" billingAccountIterator,
    IteratorClass.ofFactory "ResourceManagerOrganizationAccessPolicyIterator" resourceManagerOrganizationAccessPolicyIterator,
    IteratorClass.ofFactory "CloudSqlInstanceIterator" cloudSqlInstanceIterator,
    IteratorClass.ofFactory "ComputeAddressIterator" computeAddressIterator,
    IteratorClass.ofFactory "ComputeAutoscalerIterator" computeAutoscalerIterator,
    IteratorClass.ofFactory "ComputeBackendBucketIterator" computeBackendBucketIterator,
    IteratorClass.ofFactory "ComputeBackendServiceIterator" computeBackendServiceIterator,
    IteratorClass.ofFactory "ComputeDiskIterator" computeDiskIterator,
    IteratorClass.ofFactory "ComputeFirewallIterator" computeFirewallIterator,
    IteratorClass.ofFactory "ComputeForwardingRuleIterator" computeForwardingRuleIterator,
    IteratorClass.ofFactory "ComputeHealthCheckIterator" computeHealthCheckIterator,
    IteratorClass.ofFactory "ComputeHttpHealthCheckIterator" computeHttpHealthCheckIterator,
    IteratorClass.ofFactory "ComputeHttpsHealthCheckIterator" computeHttpsHealthCheckIterator,
    IteratorClass.ofFactory "ComputeImageIterator" computeImageIterator,
    IteratorClass.ofOne "ComputeInstanceGroupIterator" ResourceClass.computeInstanceGroup
      (fun _ client r _ a => ComputeInstanceGroupIterator.iter r a (client.instanceGroupAnswers r))
      fun _ _ _ _ _ _ h => ComputeInstanceGroupIterator.iter_createNew h,
    IteratorClass.ofFactory "ComputeInstanceGroupManagerIterator" computeInstanceGroupManagerIterator,
    IteratorClass.ofFactory "ComputeInstanceIterator" computeInstanceIterator,
    IteratorClass.ofFactory "ComputeInstanceTemplateIterator" computeInstanceTemplateIterator,
    IteratorClass.ofFactory "ComputeInterconnectIterator" computeInterconnectIterator,
    IteratorClass.ofFactory "ComputeInterconnectAttachmentIterator" computeInterconnectAttachmentIterator,
    IteratorClass.ofFactory "ComputeLicenseIterator" computeLicenseIterator,
    IteratorClass.ofFactory "ComputeNetworkIterator" computeNetworkIterator,
    IteratorClass.ofFactory "ComputeProjectIterator" computeProjectIterator,
    IteratorClass.ofFactory "ComputeRouterIterator" computeRouterIterator,
    IteratorClass.ofFactory "ComputeSecurityPolicyIterator" computeSecurityPolicyIterator,
    IteratorClass.ofFactory "ComputeSnapshotIterator" computeSnapshotIterator,
    IteratorClass.ofFactory "ComputeSslCertificateIterator" computeSslCertificateIterator,
    IteratorClass.ofFactory "ComputeSubnetworkIterator" computeSubnetworkIterator,
    IteratorClass.ofFactory "ComputeTargetHttpProxyIterator" computeTargetHttpProxyIterator,
    IteratorClass.ofFactory "ComputeTargetHttpsProxyIterator" computeTargetHttpsProxyIterator,
    IteratorClass.ofFactory "ComputeTargetInstanceIterator" computeTargetInstanceIterator,
    IteratorClass.ofFactory "ComputeTargetPoolIterator" computeTargetPoolIterator,
    IteratorClass.ofFactory "ComputeTargetSslProxyIterator" computeTargetSslProxyIterator,
    IteratorClass.ofFactory "ComputeTargetTcpProxyIterator" computeTargetTcpProxyIterator,
    IteratorClass.ofFactory "ComputeTargetVpnGatewayIterator" computeTargetVpnGatewayIterator,
    IteratorClass.ofFactory "ComputeUrlMapIterator" computeUrlMapIterator,
    IteratorClass.ofFactory "ComputeVpnTunnelIterator" computeVpnTunnelIterator,
    IteratorClass.ofFactory "DataprocClusterIterator" dataprocClusterIterator,
    IteratorClass.ofFactory "DnsManagedZoneIterator" dnsManagedZoneIterator,
    IteratorClass.ofFactory "DnsPolicyIterator" dnsPolicyIterator,
    IteratorClass.ofOne "GsuiteGroupIterator" ResourceClass.gsuiteGroup
      (fun _ client r _ _ => GsuiteGroupIterator.iter client r)
      fun _ _ _ _ _ _ h => gsuiteDirectoryIter_createNew h,
    IteratorClass.gsuiteMember,
    IteratorClass.ofOne "GsuiteUserIterator" ResourceClass.gsuiteUser
      (fun _ client r _ _ => GsuiteUserIterator.iter client r)
      fun _ _ _ _ _ _ h => gsuiteDirectoryIter_createNew h,
    IteratorClass.ofOne "GsuiteGroupsSettingsIterator" ResourceClass.gsuiteGroupsSettings
      (fun _ client r _ _ => GsuiteGroupsSettingsIterator.iter client r)
      fun _ _ _ _ _ _ h => GsuiteGroupsSettingsIterator.iter_createNew h,
    IteratorClass.ofFactory "IamOrganizationCuratedRoleIterator" iamOrganizationCuratedRoleIterator,
    IteratorClass.ofFactory "IamOrganizationRoleIterator" iamOrganizationRoleIterator,
    IteratorClass.ofFactory "IamProjectRoleIterator" iamProjectRoleIterator,
    IteratorClass.ofFactory "IamServiceAccountIterator" iamServiceAccountIterator,
    IteratorClass.ofFactory "IamServiceAccountKeyIterator" iamServiceAccountKeyIterator,
    IteratorClass.ofFactory "KmsKeyRingIterator" kmsKeyRingIterator,
    IteratorClass.ofFactory "KmsCryptoKeyIterator" kmsCryptoKeyIterator,
    IteratorClass.ofFactory "KmsCryptoKeyVersionIterator" kmsCryptoKeyVersionIterator,
    IteratorClass.ofFactory "KubernetesClusterIterator" kubernetesClusterIterator,
    IteratorClass.ofOne "KubernetesNodeIterator" ResourceClass.kubernetesNode
      (fun x client r stack _ => KubernetesNodeIterator.iter x client r stack)
      fun _ _ _ _ _ _ h => createListed_createNew h,
    IteratorClass.ofOne "KubernetesPodIterator" ResourceClass.kubernetesPod
      (fun x client r stack _ => KubernetesPodIterator.iter x client r stack)
      fun _ _ _ _ _ _ h => createListed_createNew h,
    IteratorClass.ofOne "KubernetesNamespaceIterator" ResourceClass.kubernetesNamespace
      (fun x client r stack _ => KubernetesNamespaceIterator.iter x client r stack)
      fun _ _ _ _ _ _ h => createListed_createNew h,
    IteratorClass.ofOne "KubernetesRoleIterator" ResourceClass.kubernetesRole
      (fun x client r stack _ => KubernetesRoleIterator.iter x client r stack)
      fun _ _ _ _ _ _ h => createListed_createNew h,
    IteratorClass.ofOne "KubernetesRoleBindingIterator" ResourceClass.kubernetesRoleBinding
      (fun x client r stack _ => KubernetesRoleBindingIterator.iter x client r stack)
      fun _ _ _ _ _ _ h => createListed_createNew h,
    IteratorClass.ofOne "KubernetesClusterRoleIterator" ResourceClass.kubernetesClusterRole
      (fun x client r stack _ => KubernetesClusterRoleIterator.iter x client r stack)
      fun _ _ _ _ _ _ h => createListed_createNew h,
    IteratorClass.ofOne "KubernetesClusterRoleBindingIterator" ResourceClass.kubernetesClusterRoleBinding
      (fun x client r stack _ => KubernetesClusterRoleBindingIterator.iter x client r stack)
      fun _ _ _ _ _ _ h => createListed_createNew h,
    IteratorClass.ofFactory "LoggingBillingAccountSinkIterator" loggingBillingAccountSinkIterator,
    IteratorClass.ofFactory "LoggingFolderSinkIterator" loggingFolderSinkIterator,
    IteratorClass.ofFactory "LoggingOrganizationSinkIterator" loggingOrganizationSinkIterator,
    IteratorClass.ofFactory "LoggingProjectSinkIterator" loggingProjectSinkIterator,
    IteratorClass.ofFactory "PubsubSubscriptionIterator" pubsubSubscriptionIterator,
    IteratorClass.ofFactory "PubsubTopicIterator" pubsubTopicIterator,
    IteratorClass.ofFactory "ResourceManagerProjectLienIterator" resourceManagerProjectLienIterator,
    IteratorClass.ofFactory "ServiceUsageServiceIterator" serviceUsageServiceIterator,
    IteratorClass.ofFactory "SpannerDatabaseIterator" spannerDatabaseIterator,
    IteratorClass.ofFactory "SpannerInstanceIterator" spannerInstanceIterator,
    IteratorClass.ofFactory "StorageBucketIterator" storageBucketIterator,
    IteratorClass.ofFactory "StorageObjectIterator" storageObjectIterator]

end InventoryCrawler
