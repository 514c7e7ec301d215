import InventoryCrawler.Accept
import Mathlib.Data.List.Sort
import Mathlib.Data.String.Basic
import Mathlib.Algebra.Group.Int

/-!
# The resource classes of `resources.py`

A resource holds the data the client returned for it, a map from field names to JSON values, and
its class. The classes come from two factories, `resource_class_factory(type, key_field,
hash_key)` and `k8_resource_class_factory(type)`, and from subclasses that override `key`,
`parent` or `should_dispatch`. `KeyRule` is how a class derives its key, and `ResourceClass` is a
class as the crawler sees it, with its `contains` list from `FACTORIES`. `resourceMethods` gives
the fields of `Methods` for these resources.

The two hashes, `blake2b` (through `size_t_hash`) and Python's `hash` (for `crm_org_policy`), and
the two helpers of `utils` that full names use, are parameters (`Externals`). Python's renderings
are modelled with their escapes: `repr` of a string (`pyStrRepr`) and of a dict (in `KeyError`
texts), `str` of a value, and `json.dumps(sort_keys=True)` with its default `ensure_ascii`
(`jsonStr`, in `__repr__`).
-/

namespace InventoryCrawler

/-- A JSON value of a resource's data. -/
inductive Value where
  | str (s : String)
  | num (n : Int)
  | bool (b : Bool)
  | null
  | list (vs : List Value)
  | obj (fields : List (String × Value))
  deriving Repr

/-- The data of a resource: its fields in the order the client returned them. -/
abbrev Data := List (String × Value)

/-- One character as `json.dumps` writes it with `ensure_ascii`: the quote, the backslash and the
five controls with a short escape, every other character outside printable ASCII as `\uhhhh`, or
as two such escapes of its UTF-16 surrogates above `U+FFFF`. -/
def jsonChar (c : Char) : List Char :=
  if c = '"' then ['\\', '"']
  else if c = '\\' then ['\\', '\\']
  else if c = '\n' then ['\\', 'n']
  else if c = '\r' then ['\\', 'r']
  else if c = '\t' then ['\\', 't']
  else if c.toNat = 0x08 then ['\\', 'b']
  else if c.toNat = 0x0c then ['\\', 'f']
  else if 0x20 ≤ c.toNat ∧ c.toNat ≤ 0x7e then [c]
  else if c.toNat < 0x10000 then '\\' :: 'u' :: hexPad 4 c.toNat
  else '\\' :: 'u' :: hexPad 4 (0xd800 + (c.toNat - 0x10000) / 0x400) ++
    '\\' :: 'u' :: hexPad 4 (0xdc00 + (c.toNat - 0x10000) % 0x400)

/-- A string as `json.dumps` writes it: between double quotes, each character escaped by
`jsonChar`. -/
def jsonStr (s : String) : String := String.mk ('"' :: s.toList.flatMap jsonChar ++ ['"'])

mutual
/-- Python's `repr` of a value. -/
def Value.pyRepr : Value → String
  | .str s => pyStrRepr s
  | .num n => toString n
  | .bool b => if b then "True" else "False"
  | .null => "None"
  | .list vs => "[" ++ Value.pyReprList vs ++ "]"
  | .obj fields => "\x7b" ++ Value.pyReprFields fields ++ "\x7d"

/-- The items of a Python list, comma separated. -/
def Value.pyReprList : List Value → String
  | [] => ""
  | [v] => v.pyRepr
  | v :: vs => v.pyRepr ++ ", " ++ Value.pyReprList vs

/-- The items of a Python dict, comma separated. -/
def Value.pyReprFields : List (String × Value) → String
  | [] => ""
  | [(k, v)] => pyStrRepr k ++ ": " ++ v.pyRepr
  | (k, v) :: fs => pyStrRepr k ++ ": " ++ v.pyRepr ++ ", " ++ Value.pyReprFields fs
end

/-- Python's `str` of a value: the text itself for a string, its `repr` otherwise. -/
def Value.pyStr : Value → String
  | .str s => s
  | v => v.pyRepr

/-- JSON object members, `"key": value`, comma separated. -/
def jsonJoin : List (String × String) → String
  | [] => ""
  | [(k, v)] => jsonStr k ++ ": " ++ v
  | (k, v) :: fs => jsonStr k ++ ": " ++ v ++ ", " ++ jsonJoin fs

mutual
/-- `json.dumps(v, sort_keys=True)`. -/
def Value.json : Value → String
  | .str s => jsonStr s
  | .num n => toString n
  | .bool b => if b then "true" else "false"
  | .null => "null"
  | .list vs => "[" ++ Value.jsonList vs ++ "]"
  | .obj fields => "\x7b" ++ jsonJoin ((Value.jsonMembers fields).insertionSort fun a b => a.1 ≤ b.1) ++
      "\x7d"

/-- The items of a JSON array. -/
def Value.jsonList : List Value → String
  | [] => ""
  | [v] => v.json
  | v :: vs => v.json ++ ", " ++ Value.jsonList vs

/-- The members of a JSON object, each value rendered. -/
def Value.jsonMembers : List (String × Value) → List (String × String)
  | [] => []
  | (k, v) :: fs => (k, v.json) :: Value.jsonMembers fs
end

/-- `Resource.__getitem__`: the field `k`, or `KeyError('key: {}, data: {}')`. -/
def Data.getItem (d : Data) (k : String) : Except Exn Value :=
  match d.lookup k with
  | some v => .ok v
  | none => .error (.keyError ("key: " ++ k ++ ", data: " ++ (Value.obj d).pyRepr))

/-- `s.split('/', 1)[-1]`: what follows the first `/`, or `s` when there is none. -/
def afterFirstSlash (s : String) : String :=
  match s.toList.span (· ≠ '/') with
  | (_, _ :: rest) => String.mk rest
  | (_, []) => s

/-- `s.split('/')[-1]`: what follows the last `/`, or `s` when there is none. -/
def afterLastSlash (s : String) : String :=
  String.mk (s.toList.reverse.takeWhile (· ≠ '/')).reverse

/-- The functions from outside the repository's sources that the resources call: the integer of
`blake2b`'s hex digest and Python's `hash`, for keys, and `utils.to_type_name` and
`utils.to_full_resource_name`, for full names. -/
structure Externals where
  blake2b : String → Nat
  hash : String → Int
  toTypeName : String → String → String
  toFullResourceName : String → String → String

/-- `size_t_hash(key)`: the `blake2b` digest modulo `2^64`, in decimal. -/
def Externals.sizeTHash (x : Externals) (key : String) : String :=
  toString (x.blake2b key % 2 ^ 64)

/-- `'%u' % ctypes.c_size_t(hash(key)).value`. -/
def Externals.sizeTPyHash (x : Externals) (key : String) : String :=
  toString ((x.hash key) % 2 ^ 64)

/-- The name Python gives a value's type in its error texts. -/
def Value.typeName : Value → String
  | .str _ => "str"
  | .num _ => "int"
  | .bool _ => "bool"
  | .null => "NoneType"
  | .list _ => "list"
  | .obj _ => "dict"

/-- A value on which a string method `method` is called: its text, or `AttributeError`. -/
def Value.asStr (v : Value) (method : String) : Except Exn String :=
  match v with
  | .str s => .ok s
  | _ => .error (.attributeError ("'" ++ v.typeName ++ "' object has no attribute '" ++ method ++ "'"))

/-- Python's truth value of a value: `None`, `False`, zero and empty strings, lists and dicts are
false. -/
def Value.truthy : Value → Bool
  | .str s => !s.isEmpty
  | .num n => n != 0
  | .bool b => b
  | .null => false
  | .list vs => !vs.isEmpty
  | .obj fields => !fields.isEmpty

/-- `v[k]` on a value of a resource's data: the field of a dict, `KeyError(k)` for a missing one,
and `TypeError` for a value that is not a dict. -/
def Value.getItem (v : Value) (k : String) : Except Exn Value :=
  match v with
  | .obj fields =>
    match fields.lookup k with
    | some w => .ok w
    | none => .error (.keyError k)
  | .list _ => .error (.typeError "list indices must be integers or slices, not str")
  | .str _ => .error (.typeError "string indices must be integers")
  | v => .error (.typeError ("'" ++ v.typeName ++ "' object is not subscriptable"))

/-- How a class derives `key()`. -/
inductive KeyRule where
  /-- `resource_class_factory(type, key_field)`: `self[key_field]`. -/
  | field (name : String)
  /-- `resource_class_factory(type, key_field, hash_key=True)`: `size_t_hash(self[key_field])`. -/
  | hashField (name : String)
  /-- `k8_resource_class_factory`: `size_t_hash(self['metadata']['uid'])`. -/
  | kubernetesUid
  /-- Organization, folder and billing account: `self['name'].split('/', 1)[-1]`. -/
  | nameSuffix
  /-- `ResourceManagerLien`: `self['name'].split('/')[-1]`. -/
  | nameLastSegment
  /-- `CompositeRootResource`: `'root'`. -/
  | compositeRoot
  /-- `ResourceManagerOrgPolicy`: the hash of the parent's type and key and the constraint. -/
  | orgPolicy
  /-- `LoggingSink`: the parent's type and key, the type and the name, joined by `/`. -/
  | sink
  deriving DecidableEq, Repr

/-- A resource class as the crawler sees it, with its entry of `FACTORIES`. -/
structure ResourceClass where
  /-- `__class__.__name__`. -/
  className : String
  /-- `type()`. -/
  type : String
  /-- How `key()` is derived. -/
  keyRule : KeyRule
  /-- `should_dispatch()`. -/
  dispatches : Bool := false
  /-- Whether `parent()` is `Resource.parent`: `IamCuratedRole.parent` returns `None`. -/
  hasParent : Bool := true
  /-- The `contains` list of the class's `FACTORIES` entry. -/
  contains : List String
  /-- A class with no parent has no iterators. -/
  contains_eq_nil : hasParent = false → contains = [] := by decide

/-- A resource: its class, the data the client returned, whether it is the root of the crawl
(`root=True`), and the warnings it was made with. -/
structure Resource where
  cls : ResourceClass
  data : Data
  root : Bool := false
  warnings : List String := []

namespace ResourceClass

/-- The fake root of a composite crawl, with key "root". -/
def compositeRoot : ResourceClass where
  className := "CompositeRootResource"
  type := "composite_root"
  keyRule := .compositeRoot
  contains := ["CompositeRootIterator"]

/-- Organizations, keyed by their name after "organizations/". -/
def organization : ResourceClass where
  className := "ResourceManagerOrganization"
  type := "organization"
  keyRule := .nameSuffix
  contains := ["BillingAccountIterator", "GsuiteGroupIterator", "GsuiteUserIterator",
    "IamOrganizationCuratedRoleIterator", "IamOrganizationRoleIterator",
    "LoggingOrganizationSinkIterator", "ResourceManagerOrganizationOrgPolicyIterator",
    "ResourceManagerFolderIterator", "ResourceManagerProjectIterator",
    "ResourceManagerOrganizationAccessPolicyIterator"]

/-- Folders, keyed by their name after "folders/", crawled on their own thread. -/
def folder : ResourceClass where
  className := "ResourceManagerFolder"
  type := "folder"
  keyRule := .nameSuffix
  dispatches := true
  contains := ["LoggingFolderSinkIterator", "ResourceManagerFolderOrgPolicyIterator",
    "ResourceManagerFolderIterator", "ResourceManagerProjectIterator"]

/-- Projects, keyed by "projectId", crawled on their own thread. -/
def project : ResourceClass where
  className := "ResourceManagerProject"
  type := "project"
  keyRule := .field "projectId"
  dispatches := true
  contains := ["AppEngineAppIterator", "BigqueryDataSetIterator", "BigtableInstanceIterator",
    "CloudSqlInstanceIterator", "ComputeAddressIterator", "ComputeAutoscalerIterator",
    "ComputeBackendBucketIterator", "ComputeBackendServiceIterator", "ComputeDiskIterator",
    "ComputeFirewallIterator", "ComputeForwardingRuleIterator", "ComputeHealthCheckIterator",
    "ComputeHttpHealthCheckIterator", "ComputeHttpsHealthCheckIterator", "ComputeImageIterator",
    "ComputeInstanceGroupIterator", "ComputeInstanceGroupManagerIterator",
    "ComputeInstanceIterator", "ComputeInstanceTemplateIterator", "ComputeInterconnectIterator",
    "ComputeInterconnectAttachmentIterator", "ComputeLicenseIterator", "ComputeNetworkIterator",
    "ComputeProjectIterator", "ComputeRouterIterator", "ComputeSecurityPolicyIterator",
    "ComputeSnapshotIterator", "ComputeSslCertificateIterator", "ComputeSubnetworkIterator",
    "ComputeTargetHttpProxyIterator", "ComputeTargetHttpsProxyIterator",
    "ComputeTargetInstanceIterator", "ComputeTargetPoolIterator",
    "ComputeTargetSslProxyIterator", "ComputeTargetTcpProxyIterator",
    "ComputeTargetVpnGatewayIterator", "ComputeUrlMapIterator", "ComputeVpnTunnelIterator",
    "DataprocClusterIterator", "DnsManagedZoneIterator", "DnsPolicyIterator",
    "IamProjectRoleIterator", "IamServiceAccountIterator", "KmsKeyRingIterator",
    "KubernetesClusterIterator", "LoggingProjectSinkIterator", "PubsubSubscriptionIterator",
    "PubsubTopicIterator", "ResourceManagerProjectLienIterator",
    "ResourceManagerProjectOrgPolicyIterator", "ServiceUsageServiceIterator",
    "SpannerInstanceIterator", "StorageBucketIterator"]

/-- Curated roles: the one class whose parent() is None. -/
def iamCuratedRole : ResourceClass where
  className := "IamCuratedRole"
  type := "role"
  keyRule := .field "name"
  hasParent := false
  contains := []

/-- Custom roles of an organization or a project. -/
def iamRole : ResourceClass where
  className := "IamRole"
  type := "role"
  keyRule := .field "name"
  contains := []

/-- Compute instances, keyed by "id". -/
def computeInstance : ResourceClass where
  className := "ComputeInstance"
  type := "instance"
  keyRule := .field "id"
  contains := []

/-- Compute instance groups, keyed by "id". -/
def computeInstanceGroup : ResourceClass where
  className := "ComputeInstanceGroup"
  type := "instancegroup"
  keyRule := .field "id"
  contains := []

/-- Org policies, keyed by a hash of the parent's type and key and the constraint. -/
def orgPolicy : ResourceClass where
  className := "ResourceManagerOrgPolicy"
  type := "crm_org_policy"
  keyRule := .orgPolicy
  contains := []

/-- Log sinks, keyed by the parent's type and key and the sink's name. -/
def loggingSink : ResourceClass where
  className := "LoggingSink"
  type := "sink"
  keyRule := .sink
  contains := []

/-- Liens, keyed by the last segment of their name. -/
def lien : ResourceClass where
  className := "ResourceManagerLien"
  type := "lien"
  keyRule := .nameLastSegment
  contains := []

/-- App Engine applications, keyed by a hash of their name. -/
def appengineApp : ResourceClass where
  className := "AppEngineApp"
  type := "appengine_app"
  keyRule := .hashField "name"
  contains := ["AppEngineServiceIterator"]

/-- Kubernetes nodes, keyed by a hash of "metadata"'s "uid". -/
def kubernetesNode : ResourceClass where
  className := "KubernetesNode"
  type := "kubernetes_node"
  keyRule := .kubernetesUid
  contains := []

/-- Kubernetes clusters, keyed by a hash of their "selfLink". -/
def kubernetesCluster : ResourceClass where
  className := "KubernetesCluster"
  type := "kubernetes_cluster"
  keyRule := .hashField "selfLink"
  contains := ["KubernetesNodeIterator", "KubernetesNamespaceIterator",
    "KubernetesClusterRoleIterator", "KubernetesClusterRoleBindingIterator"]

/-- BigQuery datasets, keyed by "id". -/
def bigqueryDataset : ResourceClass where
  className := "BigqueryDataSet"
  type := "dataset"
  keyRule := .field "id"
  contains := ["BigqueryTableIterator"]

/-- G Suite groups, keyed by "id", crawled on their own thread. -/
def gsuiteGroup : ResourceClass where
  className := "GsuiteGroup"
  type := "gsuite_group"
  keyRule := .field "id"
  dispatches := true
  contains := ["GsuiteMemberIterator", "GsuiteGroupsSettingsIterator"]

/-- Billing accounts, keyed by their name after "billingAccounts/". -/
def billingAccount : ResourceClass where
  className := "BillingAccount"
  type := "billing_account"
  keyRule := .nameSuffix
  contains := ["LoggingBillingAccountSinkIterator"]


/-- `AppEngineService`, keyed by a hash of "name". -/
def appengineService : ResourceClass where
  className := "AppEngineService"
  type := "appengine_service"
  keyRule := .hashField "name"
  contains := ["AppEngineVersionIterator"]

/-- `AppEngineVersion`, keyed by a hash of "name". -/
def appengineVersion : ResourceClass where
  className := "AppEngineVersion"
  type := "appengine_version"
  keyRule := .hashField "name"
  contains := ["AppEngineInstanceIterator"]

/-- `AppEngineInstance`, keyed by a hash of "name". -/
def appengineInstance : ResourceClass where
  className := "AppEngineInstance"
  type := "appengine_instance"
  keyRule := .hashField "name"
  contains := []

/-- `BigqueryTable`, keyed by "id". -/
def bigqueryTable : ResourceClass where
  className := "BigqueryTable"
  type := "bigquery_table"
  keyRule := .field "id"
  contains := []

/-- `BigtableCluster`, keyed by a hash of "name". -/
def bigtableCluster : ResourceClass where
  className := "BigtableCluster"
  type := "bigtable_cluster"
  keyRule := .hashField "name"
  contains := []

/-- `BigtableInstance`, keyed by a hash of "name". -/
def bigtableInstance : ResourceClass where
  className := "BigtableInstance"
  type := "bigtable_instance"
  keyRule := .hashField "name"
  contains := ["BigtableClusterIterator", "BigtableTableIterator"]

/-- `BigtableTable`, keyed by a hash of "name". -/
def bigtableTable : ResourceClass where
  className := "BigtableTable"
  type := "bigtable_table"
  keyRule := .hashField "name"
  contains := []

/-- `CloudSqlInstance`, keyed by a hash of "selfLink". -/
def cloudSqlInstance : ResourceClass where
  className := "CloudSqlInstance"
  type := "cloudsqlinstance"
  keyRule := .hashField "selfLink"
  contains := []

/-- `ComputeAddress`, keyed by "id". -/
def computeAddress : ResourceClass where
  className := "ComputeAddress"
  type := "compute_address"
  keyRule := .field "id"
  contains := []

/-- `ComputeAutoscaler`, keyed by "id". -/
def computeAutoscaler : ResourceClass where
  className := "ComputeAutoscaler"
  type := "compute_autoscaler"
  keyRule := .field "id"
  contains := []

/-- `ComputeBackendService`, keyed by "id". -/
def computeBackendService : ResourceClass where
  className := "ComputeBackendService"
  type := "backendservice"
  keyRule := .field "id"
  contains := []

/-- `ComputeBackendBucket`, keyed by "id". -/
def computeBackendBucket : ResourceClass where
  className := "ComputeBackendBucket"
  type := "compute_backendbucket"
  keyRule := .field "id"
  contains := []

/-- `ComputeDisk`, keyed by "id". -/
def computeDisk : ResourceClass where
  className := "ComputeDisk"
  type := "disk"
  keyRule := .field "id"
  contains := []

/-- `ComputeFirewall`, keyed by "id". -/
def computeFirewall : ResourceClass where
  className := "ComputeFirewall"
  type := "firewall"
  keyRule := .field "id"
  contains := []

/-- `ComputeForwardingRule`, keyed by "id". -/
def computeForwardingRule : ResourceClass where
  className := "ComputeForwardingRule"
  type := "forwardingrule"
  keyRule := .field "id"
  contains := []

/-- `ComputeHealthCheck`, keyed by "id". -/
def computeHealthCheck : ResourceClass where
  className := "ComputeHealthCheck"
  type := "compute_healthcheck"
  keyRule := .field "id"
  contains := []

/-- `ComputeHttpHealthCheck`, keyed by "id". -/
def computeHttpHealthCheck : ResourceClass where
  className := "ComputeHttpHealthCheck"
  type := "compute_httphealthcheck"
  keyRule := .field "id"
  contains := []

/-- `ComputeHttpsHealthCheck`, keyed by "id". -/
def computeHttpsHealthCheck : ResourceClass where
  className := "ComputeHttpsHealthCheck"
  type := "compute_httpshealthcheck"
  keyRule := .field "id"
  contains := []

/-- `ComputeImage`, keyed by "id". -/
def computeImage : ResourceClass where
  className := "ComputeImage"
  type := "image"
  keyRule := .field "id"
  contains := []

/-- `ComputeInstanceGroupManager`, keyed by "id". -/
def computeInstanceGroupManager : ResourceClass where
  className := "ComputeInstanceGroupManager"
  type := "instancegroupmanager"
  keyRule := .field "id"
  contains := []

/-- `ComputeInstanceTemplate`, keyed by "id". -/
def computeInstanceTemplate : ResourceClass where
  className := "ComputeInstanceTemplate"
  type := "instancetemplate"
  keyRule := .field "id"
  contains := []

/-- `ComputeInterconnect`, keyed by "id". -/
def computeInterconnect : ResourceClass where
  className := "ComputeInterconnect"
  type := "compute_interconnect"
  keyRule := .field "id"
  contains := []

/-- `ComputeInterconnectAttachment`, keyed by "id". -/
def computeInterconnectAttachment : ResourceClass where
  className := "ComputeInterconnectAttachment"
  type := "compute_interconnect_attachment"
  keyRule := .field "id"
  contains := []

/-- `ComputeLicense`, keyed by "id". -/
def computeLicense : ResourceClass where
  className := "ComputeLicense"
  type := "compute_license"
  keyRule := .field "id"
  contains := []

/-- `ComputeNetwork`, keyed by "id". -/
def computeNetwork : ResourceClass where
  className := "ComputeNetwork"
  type := "network"
  keyRule := .field "id"
  contains := []

/-- `ComputeProject`, keyed by "id". -/
def computeProject : ResourceClass where
  className := "ComputeProject"
  type := "compute_project"
  keyRule := .field "id"
  contains := []

/-- `ComputeRouter`, keyed by "id". -/
def computeRouter : ResourceClass where
  className := "ComputeRouter"
  type := "compute_router"
  keyRule := .field "id"
  contains := []

/-- `ComputeSecurityPolicy`, keyed by "id". -/
def computeSecurityPolicy : ResourceClass where
  className := "ComputeSecurityPolicy"
  type := "compute_securitypolicy"
  keyRule := .field "id"
  contains := []

/-- `ComputeSnapshot`, keyed by "id". -/
def computeSnapshot : ResourceClass where
  className := "ComputeSnapshot"
  type := "snapshot"
  keyRule := .field "id"
  contains := []

/-- `ComputeSslCertificate`, keyed by "id". -/
def computeSslCertificate : ResourceClass where
  className := "ComputeSslCertificate"
  type := "compute_sslcertificate"
  keyRule := .field "id"
  contains := []

/-- `ComputeSubnetwork`, keyed by "id". -/
def computeSubnetwork : ResourceClass where
  className := "ComputeSubnetwork"
  type := "subnetwork"
  keyRule := .field "id"
  contains := []

/-- `ComputeTargetHttpProxy`, keyed by "id". -/
def computeTargetHttpProxy : ResourceClass where
  className := "ComputeTargetHttpProxy"
  type := "compute_targethttpproxy"
  keyRule := .field "id"
  contains := []

/-- `ComputeTargetHttpsProxy`, keyed by "id". -/
def computeTargetHttpsProxy : ResourceClass where
  className := "ComputeTargetHttpsProxy"
  type := "compute_targethttpsproxy"
  keyRule := .field "id"
  contains := []

/-- `ComputeTargetInstance`, keyed by "id". -/
def computeTargetInstance : ResourceClass where
  className := "ComputeTargetInstance"
  type := "compute_targetinstance"
  keyRule := .field "id"
  contains := []

/-- `ComputeTargetPool`, keyed by "id". -/
def computeTargetPool : ResourceClass where
  className := "ComputeTargetPool"
  type := "compute_targetpool"
  keyRule := .field "id"
  contains := []

/-- `ComputeTargetSslProxy`, keyed by "id". -/
def computeTargetSslProxy : ResourceClass where
  className := "ComputeTargetSslProxy"
  type := "compute_targetsslproxy"
  keyRule := .field "id"
  contains := []

/-- `ComputeTargetTcpProxy`, keyed by "id". -/
def computeTargetTcpProxy : ResourceClass where
  className := "ComputeTargetTcpProxy"
  type := "compute_targettcpproxy"
  keyRule := .field "id"
  contains := []

/-- `ComputeTargetVpnGateway`, keyed by "id". -/
def computeTargetVpnGateway : ResourceClass where
  className := "ComputeTargetVpnGateway"
  type := "compute_targetvpngateway"
  keyRule := .field "id"
  contains := []

/-- `ComputeUrlMap`, keyed by "id". -/
def computeUrlMap : ResourceClass where
  className := "ComputeUrlMap"
  type := "compute_urlmap"
  keyRule := .field "id"
  contains := []

/-- `ComputeVpnTunnel`, keyed by "id". -/
def computeVpnTunnel : ResourceClass where
  className := "ComputeVpnTunnel"
  type := "compute_vpntunnel"
  keyRule := .field "id"
  contains := []

/-- `ResourceManagerAccessPolicy`, keyed by "name". -/
def accessPolicy : ResourceClass where
  className := "ResourceManagerAccessPolicy"
  type := "crm_access_policy"
  keyRule := .field "name"
  contains := ["AccessLevelIterator", "ServicePerimeterIterator"]

/-- `ResourceManagerAccessLevel`, keyed by "name". -/
def accessLevel : ResourceClass where
  className := "ResourceManagerAccessLevel"
  type := "crm_access_level"
  keyRule := .field "name"
  contains := []

/-- `ResourceManagerServicePerimeter`, keyed by "name". -/
def servicePerimeter : ResourceClass where
  className := "ResourceManagerServicePerimeter"
  type := "crm_service_perimeter"
  keyRule := .field "name"
  contains := []

/-- `DataprocCluster`, keyed by "clusterUuid". -/
def dataprocCluster : ResourceClass where
  className := "DataprocCluster"
  type := "dataproc_cluster"
  keyRule := .field "clusterUuid"
  contains := []

/-- `DnsManagedZone`, keyed by "id". -/
def dnsManagedZone : ResourceClass where
  className := "DnsManagedZone"
  type := "dns_managedzone"
  keyRule := .field "id"
  contains := []

/-- `DnsPolicy`, keyed by "id". -/
def dnsPolicy : ResourceClass where
  className := "DnsPolicy"
  type := "dns_policy"
  keyRule := .field "id"
  contains := []

/-- `ServiceUsageService`, keyed by a hash of "name". -/
def serviceUsageService : ResourceClass where
  className := "ServiceUsageService"
  type := "service"
  keyRule := .hashField "name"
  contains := []

/-- `GsuiteGroupsSettings`, keyed by "email". -/
def gsuiteGroupsSettings : ResourceClass where
  className := "GsuiteGroupsSettings"
  type := "gsuite_groups_settings"
  keyRule := .field "email"
  contains := []

/-- `GsuiteGroupMember`, keyed by "id". -/
def gsuiteGroupMember : ResourceClass where
  className := "GsuiteGroupMember"
  type := "gsuite_group_member"
  keyRule := .field "id"
  contains := []

/-- `GsuiteUser`, keyed by "id". -/
def gsuiteUser : ResourceClass where
  className := "GsuiteUser"
  type := "gsuite_user"
  keyRule := .field "id"
  contains := []

/-- `GsuiteUserMember`, keyed by "id". -/
def gsuiteUserMember : ResourceClass where
  className := "GsuiteUserMember"
  type := "gsuite_user_member"
  keyRule := .field "id"
  contains := []

/-- `IamServiceAccount`, keyed by "uniqueId". -/
def iamServiceAccount : ResourceClass where
  className := "IamServiceAccount"
  type := "serviceaccount"
  keyRule := .field "uniqueId"
  contains := ["IamServiceAccountKeyIterator"]

/-- `IamServiceAccountKey`, keyed by a hash of "name". -/
def iamServiceAccountKey : ResourceClass where
  className := "IamServiceAccountKey"
  type := "serviceaccount_key"
  keyRule := .hashField "name"
  contains := []

/-- `KmsKeyRing`, keyed by a hash of "name". -/
def kmsKeyRing : ResourceClass where
  className := "KmsKeyRing"
  type := "kms_keyring"
  keyRule := .hashField "name"
  contains := ["KmsCryptoKeyIterator"]

/-- `KmsCryptoKey`, keyed by a hash of "name". -/
def kmsCryptoKey : ResourceClass where
  className := "KmsCryptoKey"
  type := "kms_cryptokey"
  keyRule := .hashField "name"
  contains := ["KmsCryptoKeyVersionIterator"]

/-- `KmsCryptoKeyVersion`, keyed by a hash of "name". -/
def kmsCryptoKeyVersion : ResourceClass where
  className := "KmsCryptoKeyVersion"
  type := "kms_cryptokeyversion"
  keyRule := .hashField "name"
  contains := []

/-- `KubernetesNamespace`, keyed by a hash of "metadata"'s "uid". -/
def kubernetesNamespace : ResourceClass where
  className := "KubernetesNamespace"
  type := "kubernetes_namespace"
  keyRule := .kubernetesUid
  contains := ["KubernetesPodIterator", "KubernetesRoleIterator", "KubernetesRoleBindingIterator"]

/-- `KubernetesPod`, keyed by a hash of "metadata"'s "uid". -/
def kubernetesPod : ResourceClass where
  className := "KubernetesPod"
  type := "kubernetes_pod"
  keyRule := .kubernetesUid
  contains := []

/-- `KubernetesRole`, keyed by a hash of "metadata"'s "uid". -/
def kubernetesRole : ResourceClass where
  className := "KubernetesRole"
  type := "kubernetes_role"
  keyRule := .kubernetesUid
  contains := []

/-- `KubernetesRoleBinding`, keyed by a hash of "metadata"'s "uid". -/
def kubernetesRoleBinding : ResourceClass where
  className := "KubernetesRoleBinding"
  type := "kubernetes_rolebinding"
  keyRule := .kubernetesUid
  contains := []

/-- `KubernetesClusterRole`, keyed by a hash of "metadata"'s "uid". -/
def kubernetesClusterRole : ResourceClass where
  className := "KubernetesClusterRole"
  type := "kubernetes_clusterrole"
  keyRule := .kubernetesUid
  contains := []

/-- `KubernetesClusterRoleBinding`, keyed by a hash of "metadata"'s "uid". -/
def kubernetesClusterRoleBinding : ResourceClass where
  className := "KubernetesClusterRoleBinding"
  type := "kubernetes_clusterrolebinding"
  keyRule := .kubernetesUid
  contains := []

/-- `PubsubSubscription`, keyed by a hash of "name". -/
def pubsubSubscription : ResourceClass where
  className := "PubsubSubscription"
  type := "pubsub_subscription"
  keyRule := .hashField "name"
  contains := []

/-- `PubsubTopic`, keyed by a hash of "name". -/
def pubsubTopic : ResourceClass where
  className := "PubsubTopic"
  type := "pubsub_topic"
  keyRule := .hashField "name"
  contains := []

/-- `SpannerDatabase`, keyed by a hash of "name". -/
def spannerDatabase : ResourceClass where
  className := "SpannerDatabase"
  type := "spanner_database"
  keyRule := .hashField "name"
  contains := []

/-- `SpannerInstance`, keyed by a hash of "name". -/
def spannerInstance : ResourceClass where
  className := "SpannerInstance"
  type := "spanner_instance"
  keyRule := .hashField "name"
  contains := ["SpannerDatabaseIterator"]

/-- `StorageBucket`, keyed by "id". -/
def storageBucket : ResourceClass where
  className := "StorageBucket"
  type := "bucket"
  keyRule := .field "id"
  contains := []

/-- `StorageObject`, keyed by "id". -/
def storageObject : ResourceClass where
  className := "StorageObject"
  type := "storage_object"
  keyRule := .field "id"
  contains := []

end ResourceClass

/-- `FACTORIES`: the class of each resource name. -/
def factories : List (String × ResourceClass) :=
  [("composite_root", ResourceClass.compositeRoot), ("organization", ResourceClass.organization),
   ("folder", ResourceClass.folder), ("project", ResourceClass.project),
   ("appengine_app", ResourceClass.appengineApp),
   ("appengine_service", ResourceClass.appengineService),
   ("appengine_version", ResourceClass.appengineVersion),
   ("appengine_instance", ResourceClass.appengineInstance),
   ("billing_account", ResourceClass.billingAccount),
   ("bigquery_dataset", ResourceClass.bigqueryDataset),
   ("bigquery_table", ResourceClass.bigqueryTable),
   ("bigtable_cluster", ResourceClass.bigtableCluster),
   ("bigtable_instance", ResourceClass.bigtableInstance),
   ("bigtable_table", ResourceClass.bigtableTable),
   ("cloudsql_instance", ResourceClass.cloudSqlInstance),
   ("compute_address", ResourceClass.computeAddress),
   ("compute_autoscaler", ResourceClass.computeAutoscaler),
   ("compute_backendservice", ResourceClass.computeBackendService),
   ("compute_backendbucket", ResourceClass.computeBackendBucket),
   ("compute_disk", ResourceClass.computeDisk),
   ("compute_firewall", ResourceClass.computeFirewall),
   ("compute_forwardingrule", ResourceClass.computeForwardingRule),
   ("compute_healthcheck", ResourceClass.computeHealthCheck),
   ("compute_httphealthcheck", ResourceClass.computeHttpHealthCheck),
   ("compute_httpshealthcheck", ResourceClass.computeHttpsHealthCheck),
   ("compute_image", ResourceClass.computeImage),
   ("compute_instancegroup", ResourceClass.computeInstanceGroup),
   ("compute_instancegroupmanager", ResourceClass.computeInstanceGroupManager),
   ("compute_instance", ResourceClass.computeInstance),
   ("compute_instancetemplate", ResourceClass.computeInstanceTemplate),
   ("compute_interconnect", ResourceClass.computeInterconnect),
   ("compute_interconnect_attachment", ResourceClass.computeInterconnectAttachment),
   ("compute_license", ResourceClass.computeLicense),
   ("compute_network", ResourceClass.computeNetwork),
   ("compute_project", ResourceClass.computeProject),
   ("compute_router", ResourceClass.computeRouter),
   ("compute_securitypolicy", ResourceClass.computeSecurityPolicy),
   ("compute_snapshot", ResourceClass.computeSnapshot),
   ("compute_sslcertificate", ResourceClass.computeSslCertificate),
   ("compute_subnetwork", ResourceClass.computeSubnetwork),
   ("compute_targethttpproxy", ResourceClass.computeTargetHttpProxy),
   ("compute_targethttpsproxy", ResourceClass.computeTargetHttpsProxy),
   ("compute_targetinstance", ResourceClass.computeTargetInstance),
   ("compute_targetpool", ResourceClass.computeTargetPool),
   ("compute_targetsslproxy", ResourceClass.computeTargetSslProxy),
   ("compute_targettcpproxy", ResourceClass.computeTargetTcpProxy),
   ("compute_targetvpngateway", ResourceClass.computeTargetVpnGateway),
   ("compute_urlmap", ResourceClass.computeUrlMap),
   ("compute_vpntunnel", ResourceClass.computeVpnTunnel), ("crm_lien", ResourceClass.lien),
   ("crm_org_policy", ResourceClass.orgPolicy), ("crm_access_policy", ResourceClass.accessPolicy),
   ("crm_access_level", ResourceClass.accessLevel),
   ("crm_service_perimeter", ResourceClass.servicePerimeter),
   ("dataproc_cluster", ResourceClass.dataprocCluster),
   ("dns_managedzone", ResourceClass.dnsManagedZone), ("dns_policy", ResourceClass.dnsPolicy),
   ("service", ResourceClass.serviceUsageService), ("gsuite_group", ResourceClass.gsuiteGroup),
   ("gsuite_groups_settings", ResourceClass.gsuiteGroupsSettings),
   ("gsuite_group_member", ResourceClass.gsuiteGroupMember),
   ("gsuite_user", ResourceClass.gsuiteUser),
   ("gsuite_user_member", ResourceClass.gsuiteUserMember),
   ("iam_curated_role", ResourceClass.iamCuratedRole), ("iam_role", ResourceClass.iamRole),
   ("iam_serviceaccount", ResourceClass.iamServiceAccount),
   ("iam_serviceaccount_key", ResourceClass.iamServiceAccountKey),
   ("kms_keyring", ResourceClass.kmsKeyRing), ("kms_cryptokey", ResourceClass.kmsCryptoKey),
   ("kms_cryptokeyversion", ResourceClass.kmsCryptoKeyVersion),
   ("kubernetes_cluster", ResourceClass.kubernetesCluster),
   ("kubernetes_namespace", ResourceClass.kubernetesNamespace),
   ("kubernetes_node", ResourceClass.kubernetesNode),
   ("kubernetes_pod", ResourceClass.kubernetesPod),
   ("kubernetes_role", ResourceClass.kubernetesRole),
   ("kubernetes_rolebinding", ResourceClass.kubernetesRoleBinding),
   ("kubernetes_clusterrole", ResourceClass.kubernetesClusterRole),
   ("kubernetes_clusterrolebinding", ResourceClass.kubernetesClusterRoleBinding),
   ("logging_sink", ResourceClass.loggingSink),
   ("pubsub_subscription", ResourceClass.pubsubSubscription),
   ("pubsub_topic", ResourceClass.pubsubTopic),
   ("spanner_database", ResourceClass.spannerDatabase),
   ("spanner_instance", ResourceClass.spannerInstance),
   ("storage_bucket", ResourceClass.storageBucket), ("storage_object", ResourceClass.storageObject)]

namespace Resource

variable (x : Externals)

/-- `parent().type()` and `parent().key()` for a key that reads them, given the top of the stack
with its key: `None` for a class with no parent or an empty stack, and a recursion without end
for a root, whose parent is itself. -/
def parentTypeKey (r : Resource) (top : Option (Resource × Except Exn String)) :
    Except Exn (String × String) :=
  if !r.cls.hasParent then .error (.attributeError "'NoneType' object has no attribute 'type'")
  else if r.root then .error (.recursionError "maximum recursion depth exceeded")
  else match top with
    | none => .error (.attributeError "'NoneType' object has no attribute 'type'")
    | some (p, k) => do pure (p.cls.type, ← k)

/-- `key()` of a resource, given the top of its stack with the top's own `key()`. -/
def keyWith (r : Resource) (top : Option (Resource × Except Exn String)) : Except Exn String :=
  match r.cls.keyRule with
  | .field f => do pure (← r.data.getItem f).pyStr
  | .hashField f => do pure (x.sizeTHash (← (← r.data.getItem f).asStr "encode"))
  | .kubernetesUid => do
    pure (x.sizeTHash (← (← (← r.data.getItem "metadata").getItem "uid").asStr "encode"))
  | .nameSuffix => do pure (afterFirstSlash (← (← r.data.getItem "name").asStr "split"))
  | .nameLastSegment => do pure (afterLastSlash (← (← r.data.getItem "name").asStr "split"))
  | .compositeRoot => pure "root"
  | .orgPolicy => do
    let (ptype, pkey) ← parentTypeKey r top
    let constraint ← if (r.data.lookup "constraint").isSome then r.data.getItem "constraint"
      else .error (.keyError ("key: 0, data: " ++ (Value.obj r.data).pyRepr))
    let c ← match constraint with
      | .str c => .ok c
      | v => .error (.typeError ("sequence item 2: expected str instance, " ++ v.typeName ++
          " found"))
    pure (x.sizeTPyHash (ptype ++ "/" ++ pkey ++ "/" ++ c))
  | .sink => do
    let (ptype, pkey) ← parentTypeKey r top
    let name ← match ← r.data.getItem "name" with
      | .str n => .ok n
      | v => .error (.typeError ("sequence item 3: expected str instance, " ++ v.typeName ++
          " found"))
    pure (ptype ++ "/" ++ pkey ++ "/" ++ r.cls.type ++ "/" ++ name)

/-- `key()` of a resource under a stack written parent first. -/
def keyRev (r : Resource) : List Resource → Except Exn String
  | [] => r.keyWith x none
  | p :: ps => r.keyWith x (some (p, keyRev p ps))

end Resource

/-- The fields of `Methods` for the resources of `resources.py`. -/
def resourceMethods (x : Externals) : Methods Resource where
  className r := r.cls.className
  type r := r.cls.type
  key r stack := r.keyRev x stack.reverse
  item r f := do pure (← r.data.getItem f).pyStr
  dumps r := (Value.obj r.data).json
  isRoot r := r.root
  hasParent r := r.cls.hasParent
  shouldDispatch r := r.cls.dispatches
  contains r := r.cls.contains
  warnings r := r.warnings
  toTypeName := x.toTypeName
  toFullResourceName := x.toFullResourceName
  contains_eq_nil r := r.cls.contains_eq_nil

/-- Externals for samples: hashes that are zero, and names joined by "/". -/
def sampleExternals : Externals :=
  ⟨fun _ => 0, fun _ => 0, fun t k => t ++ "/" ++ k, fun n t => n ++ "/" ++ t⟩

/-- A visitor that excludes nothing, visits without warnings and defers every dispatch. -/
def sampleVisitor : Visitor Resource :=
  ⟨[], fun _ => ([], none), fun _ => .defer, fun _ _ => none⟩

/-- The root organization of the samples. -/
def sampleOrg : Resource := ⟨.organization, [("name", .str "organizations/1")], true, []⟩

/-- The project of the samples, below `sampleOrg`. -/
def sampleTreeProject : Resource := ⟨.project, [("projectId", .str "p1"), ("projectNumber", .num 11)], false, []⟩

/-- A root organization whose project iterator, its ninth, yields one project, whose iterators
yield nothing. -/
def sampleTree : Served Resource :=
  .node sampleOrg (List.replicate 8 (.mk [] none) ++ [.mk [.node sampleTreeProject []] none])

end InventoryCrawler
