import InventoryCrawler.Kubernetes

/-!
# The side-band getters of the resources

The getters that a visitor calls on a resource (`get_iam_policy`, `get_org_policy`, ...) are
wrapped in `cached(field_name)`: when the attribute `__cached_<field_name>` is set the wrapper
returns it, and otherwise it runs the method and stores what the method returns. What the method
raises is not stored. `BigqueryDataSet` has two getters that also fill each other's cache, through
`_set_cache`, which writes an attribute that is unset or `None`.

A getter is a function of the resource's attributes and of what its client method answers
(`Getter`). One call does a `GetterRun`: whether it invoked the client method, what it returned
or raised, the attributes after it, and the warnings it added. Most bodies have one shape
(`clientBody`): compute the call's arguments, call the client, and on `ApiExecutionError` or
`ResourceNotSupported` add a warning and return `None`. `getterOverrides` lists, by class and
method, every getter of `resources.py` that a class overrides; the others are the template of
`Resource`, which returns `None` without calling the client.

Six classes below a project override `get_iam_policy` with one client call and a warning
`'Could not get ... IAM Policy for %s in project %s: %s' % (label, self.parent().key(), e)`:
service accounts, key rings, crypto keys, Pub/Sub subscriptions and topics, and buckets
(`parentKeyGetter`, whose spec is `parentKeyGetter_eq`). A bucket's `get_gcs_policy` first returns
the `acl` of its data, if true, without calling the client (`StorageBucket.getGcsPolicy_of_acl`);
a Dataproc cluster's `get_iam_policy` also catches the `KeyError` and `TypeError` of reading its
labels, so nothing in its data makes it raise (`DataprocCluster.getIamPolicy_res`).
-/


namespace InventoryCrawler

/-- The attributes of a resource object that its getters read and write, by name: the
`__cached_<name>` attributes of `cached` and `_set_cache`, and `_enabled_service_names`. -/
abbrev Attrs := String → Option Value

/-- What one call of a getter did: whether it invoked its client method, the value it returned or
the exception it raised, the resource's attributes after it, and the warnings it added to the
resource. -/
structure GetterRun where
  called : Bool
  res : Except Exn Value
  attrs : Attrs
  warnings : List String

/-- A getter of a resource: what it does, given the resource's attributes and what its client
method answers if it invokes it. -/
abbrev Getter := Attrs → Except Exn Value → GetterRun

/-- The attribute that `cached(field_name)` stores under, `'__cached_{}'.format(field_name)`. -/
def cacheAttr (fieldName : String) : String := "__cached_" ++ fieldName

/-- `cached(field_name)(f)`: the stored value if the attribute is set; otherwise `f` runs, and the
value it returns is stored. -/
def cached (fieldName : String) (f : Getter) : Getter := fun a answer =>
  match a (cacheAttr fieldName) with
  | some v => ⟨false, .ok v, a, []⟩
  | none =>
    match f a answer with
    | ⟨called, .ok v, a', ws⟩ => ⟨called, .ok v, Function.update a' (cacheAttr fieldName) (some v), ws⟩
    | run => run

/-- `BigqueryDataSet._set_cache(field_name, value)`: the value is stored unless the attribute
holds something other than `None`. -/
def setCache (fieldName : String) (value : Value) (a : Attrs) : Attrs :=
  match a (cacheAttr fieldName) with
  | some .null | none => Function.update a (cacheAttr fieldName) (some value)
  | some _ => a

/-- `v.get(k, default)` on a value of a response: the field of a dict, or `default`; any other
value has no `get`. -/
def Value.get (v : Value) (k : String) (default : Value) : Except Exn Value :=
  match v with
  | .obj fields => .ok ((fields.lookup k).getD default)
  | v => .error (.attributeError ("'" ++ v.typeName ++ "' object has no attribute 'get'"))

/-- The body shared by the getters that call one client method:
`try: <args>; data = client.<method>(<args>); <post>; return data` and
`except (ApiExecutionError, ResourceNotSupported) as e: self.add_warning(<message e>); return None`.
The client is invoked when the arguments compute; what computing them raises, and what the client
raises that the clause does not catch, propagates, and so does what the message raises. `post`
gives the value returned from the arguments and the response, and may write attributes. -/
def clientBody {α : Type} (args : Except Exn α) (message : Exn → Except Exn String)
    (post : α → Value → Attrs → Value × Attrs) : Getter := fun a answer =>
  match args with
  | .error e => ⟨false, .error e, a, []⟩
  | .ok x =>
    match answer with
    | .ok data => ⟨true, .ok (post x data a).1, (post x data a).2, []⟩
    | .error e =>
      if e.isFetchError then
        match message e with
        | .ok msg => ⟨true, .ok .null, a, [msg]⟩
        | .error e' => ⟨true, .error e', a, []⟩
      else ⟨true, .error e, a, []⟩

/-- The `post` of a getter that returns the response as it is. -/
def keepResponse {α : Type} (_ : α) (data : Value) (a : Attrs) : Value × Attrs := (data, a)

/-- The getters of `Resource` itself: `del client; return None`. -/
def Resource.templateGetter : Getter := fun a _ => ⟨false, .ok .null, a, []⟩

/-- `self.parent()[key]`: `None[key]` raises `TypeError`. -/
def parentItem (x : Externals) (r : Resource) (stack : List Resource) (key : String) :
    Except Exn Value :=
  match (resourceMethods x).parent r stack with
  | some (p, _) => p.data.getItem key
  | none => .error (.typeError "'NoneType' object is not subscriptable")

/-- `self.parent().parent()[key]`: `None.parent()` raises `AttributeError`. -/
def grandparentItem (x : Externals) (r : Resource) (stack : List Resource) (key : String) :
    Except Exn Value :=
  match (resourceMethods x).parent r stack with
  | some (p, ps) => parentItem x p ps key
  | none => .error (.attributeError "'NoneType' object has no attribute 'parent'")

section Getters

variable (x : Externals) (r : Resource) (stack : List Resource)

/-- The warning `text + self.key() + ': ' + str(e)`. -/
def keyMessage (text : String) (e : Exn) : Except Exn String := do
  let k ← (resourceMethods x).key r stack
  pure (text ++ k ++ ": " ++ e.str)

/-- The getters of organizations and folders that call the client with `self['name']`, with the
warning `text + self.key() + ': ' + str(e)`. -/
def nameKeyGetter (text : String) : Getter :=
  clientBody (r.data.getItem "name") (keyMessage x r stack text) keepResponse

/-- The getters that call the client with `self['name']` and add `str(e)` as their warning. -/
def nameErrorGetter : Getter := clientBody (r.data.getItem "name") (fun e => .ok e.str) keepResponse

/-- `ResourceManagerOrganization.get_iam_policy`. -/
def ResourceManagerOrganization.getIamPolicy : Getter :=
  nameKeyGetter x r stack "Could not get IAM policy for organization "

/-- `ResourceManagerOrganization.get_org_policy`. -/
def ResourceManagerOrganization.getOrgPolicy : Getter := nameErrorGetter r

/-- `ResourceManagerOrganization.get_access_policy`. -/
def ResourceManagerOrganization.getAccessPolicy : Getter := nameErrorGetter r

/-- `ResourceManagerFolder.get_iam_policy`. -/
def ResourceManagerFolder.getIamPolicy : Getter :=
  nameKeyGetter x r stack "Could not get IAM policy for folder "

/-- `ResourceManagerFolder.get_org_policy`. -/
def ResourceManagerFolder.getOrgPolicy : Getter := nameErrorGetter r

/-- `BillingAccount.get_iam_policy`. -/
def BillingAccount.getIamPolicy : Getter :=
  nameKeyGetter x r stack "Could not get Billing Account IAM Policy for "

/-- `ResourceManagerProject.enumerable()`: `self['lifecycleState'] == 'ACTIVE'`. -/
def ResourceManagerProject.enumerable : Except Exn Bool := do
  match ← r.data.getItem "lifecycleState" with
  | .str s => pure (s == "ACTIVE")
  | _ => pure false

/-- `if self.enumerable(): <body>` and `return {}` otherwise, as the project's getters do. -/
def ResourceManagerProject.whenEnumerable (body : Getter) : Getter := fun a answer =>
  match ResourceManagerProject.enumerable r with
  | .error e => ⟨false, .error e, a, []⟩
  | .ok true => body a answer
  | .ok false => ⟨false, .ok (.obj []), a, []⟩

/-- A project's getters of the client shape, called with `self['projectNumber']`. -/
def ResourceManagerProject.numberGetter (text : String) : Getter :=
  ResourceManagerProject.whenEnumerable r
    (clientBody (r.data.getItem "projectNumber") (keyMessage x r stack text) keepResponse)

/-- `ResourceManagerProject.get_iam_policy`. -/
def ResourceManagerProject.getIamPolicy : Getter :=
  ResourceManagerProject.numberGetter x r stack "Could not get IAM policy for project "

/-- `ResourceManagerProject.get_org_policy`. -/
def ResourceManagerProject.getOrgPolicy : Getter := nameErrorGetter r

/-- `ResourceManagerProject.get_billing_info`. -/
def ResourceManagerProject.getBillingInfo : Getter :=
  ResourceManagerProject.numberGetter x r stack "Could not get Billing Info for project "

/-- `frozenset(api.get('config', {}).get('name') for api in enabled_apis)`, as a list. -/
def serviceNames (enabledApis : Value) : Except Exn (List Value) := do
  let apis ← enabledApis.iterItems
  apis.mapM fun api => do
    let config ← api.get "config" (.obj [])
    config.get "name" .null

/-- The `try` of `ResourceManagerProject.get_enabled_apis`, after `enabled_apis = []`: for an
enumerable project the client's answer, or `[]` and a warning on `ApiExecutionError` and
`ResourceNotSupported`; whether the client was invoked. -/
def ResourceManagerProject.fetchEnabledApis (answer : Except Exn Value) :
    Bool × Except Exn (Value × List String) :=
  match ResourceManagerProject.enumerable r with
  | .error e => (false, .error e)
  | .ok false => (false, .ok (.list [], []))
  | .ok true =>
    match r.data.getItem "projectNumber" with
    | .error e => (false, .error e)
    | .ok _ =>
      match answer with
      | .ok apis => (true, .ok (apis, []))
      | .error e =>
        if e.isFetchError then
          match keyMessage x r stack "Could not get Enabled APIs for project " e with
          | .ok msg => (true, .ok (.list [], [msg]))
          | .error e' => (true, .error e')
        else (true, .error e)

/-- `ResourceManagerProject.get_enabled_apis`: after the `try`, `self._enabled_service_names` is
set from the names of the services, and `enabled_apis` is returned. -/
def ResourceManagerProject.getEnabledApis : Getter := fun a answer =>
  match (ResourceManagerProject.fetchEnabledApis x r stack answer).2 with
  | .error e => ⟨(ResourceManagerProject.fetchEnabledApis x r stack answer).1, .error e, a, []⟩
  | .ok (apis, ws) =>
    match serviceNames apis with
    | .ok names => ⟨(ResourceManagerProject.fetchEnabledApis x r stack answer).1, .ok apis,
        Function.update a "_enabled_service_names" (some (.list names)), ws⟩
    | .error e => ⟨(ResourceManagerProject.fetchEnabledApis x r stack answer).1, .error e, a, ws⟩

/-- The arguments of a dataset's two client calls: `self.parent()['projectId']`,
`self.parent()['projectNumber']` and `self['datasetReference']['datasetId']`. -/
def BigqueryDataSet.callArgs : Except Exn (Value × Value × Value) := do
  let parent ← match (resourceMethods x).parent r stack with
    | some (p, _) => pure p
    | none => .error (.typeError "'NoneType' object is not subscriptable")
  let projectId ← parent.data.getItem "projectId"
  let projectNumber ← parent.data.getItem "projectNumber"
  let datasetId ← (← r.data.getItem "datasetReference").getItem "datasetId"
  pure (projectId, projectNumber, datasetId)

/-- The warning of a dataset's getters: `text + self.key() + ' in project ' +
self.parent().key() + ': ' + str(e)`. -/
def BigqueryDataSet.message (text : String) (e : Exn) : Except Exn String := do
  let k ← (resourceMethods x).key r stack
  let pk ← match (resourceMethods x).parent r stack with
    | some (p, ps) => (resourceMethods x).key p ps
    | none => .error (.attributeError "'NoneType' object has no attribute 'key'")
  pure (text ++ k ++ " in project " ++ pk ++ ": " ++ e.str)

/-- The two functions of `iam_helpers` that convert a dataset's policies, outside the repository's
sources. -/
structure Converters where
  /-- `convert_iam_to_bigquery_policy(iam_policy)`. -/
  convertIamToBigqueryPolicy : Value → Value
  /-- `convert_bigquery_policy_to_iam(dataset_policy, project_id)`. -/
  convertBigqueryPolicyToIam : Value → Value → Value

variable (cv : Converters)

/-- `BigqueryDataSet.get_iam_policy`: the response is returned, and its conversion prefills the
cache of `get_dataset_policy`. -/
def BigqueryDataSet.getIamPolicy : Getter :=
  clientBody (BigqueryDataSet.callArgs x r stack)
    (BigqueryDataSet.message x r stack "Could not get Dataset IAM Policy for ")
    fun _ iamPolicy a =>
      (iamPolicy, setCache "dataset_policy" (cv.convertIamToBigqueryPolicy iamPolicy) a)

/-- `BigqueryDataSet.get_dataset_policy`: the response is returned, and its conversion prefills
the cache of `get_iam_policy`. -/
def BigqueryDataSet.getDatasetPolicy : Getter :=
  clientBody (BigqueryDataSet.callArgs x r stack)
    (BigqueryDataSet.message x r stack "Could not get Dataset Policy for ")
    fun args datasetPolicy a =>
      (datasetPolicy, setCache "iam_policy" (cv.convertBigqueryPolicyToIam datasetPolicy args.1) a)

/-- The arguments of a cluster's client call, in the order Python computes them:
`self.parent().key()`, `zone=self.zone()` and `location=self.location()`. -/
def KubernetesCluster.serviceConfigArgs : Except Exn (String × Option String × Option String) := do
  let parentKey ← match (resourceMethods x).parent r stack with
    | some (p, ps) => (resourceMethods x).key p ps
    | none => .error (.attributeError "'NoneType' object has no attribute 'key'")
  pure (parentKey, ← KubernetesCluster.zone r, ← KubernetesCluster.location r)

/-- The two `except` clauses of `get_kubernetes_service_config`: `ValueError` returns `{}`;
`ApiExecutionError` and `ResourceNotSupported` add the warning
`'Could not get Cluster service config for %s : %s' % (self['selfLink'], e)` and return `None`;
anything else propagates. -/
def KubernetesCluster.serviceConfigHandler (a : Attrs) (called : Bool) : Exn → GetterRun
  | .valueError _ => ⟨called, .ok (.obj []), a, []⟩
  | e =>
    if e.isFetchError then
      match r.data.getItem "selfLink" with
      | .ok link => ⟨called, .ok .null, a,
          ["Could not get Cluster service config for " ++ link.pyStr ++ " : " ++ e.str]⟩
      | .error e' => ⟨called, .error e', a, []⟩
    else ⟨called, .error e, a, []⟩

/-- `KubernetesCluster.get_kubernetes_service_config`: the `try` computes the arguments and calls
the client, and its clauses handle what either raises. -/
def KubernetesCluster.getKubernetesServiceConfig : Getter := fun a answer =>
  match KubernetesCluster.serviceConfigArgs x r stack with
  | .error e => KubernetesCluster.serviceConfigHandler r a false e
  | .ok _ =>
    match answer with
    | .ok data => ⟨true, .ok data, a, []⟩
    | .error e => KubernetesCluster.serviceConfigHandler r a true e

/-- `self.parent().key()`: the key of the resource above on the stack, under the rest of the
stack; `None.key()` raises `AttributeError`. -/
def parentKey : Except Exn String :=
  match (resourceMethods x).parent r stack with
  | some (p, ps) => (resourceMethods x).key p ps
  | none => .error (.attributeError "'NoneType' object has no attribute 'key'")

/-- `'%s' % self['name']`. -/
def nameLabel : Except Exn String := do pure (← r.data.getItem "name").pyStr

/-- The getters that call one client method with `args` and return its data; on
`ApiExecutionError` or `ResourceNotSupported`, the warning
`text + '%s in project %s: %s' % (label, self.parent().key(), e)` and `None`. -/
def parentKeyGetter (args : Except Exn (List Value)) (text : String)
    (label : Except Exn String) : Getter :=
  clientBody args (fun e => do
      let l ← label
      let k ← parentKey x r stack
      pure (text ++ l ++ " in project " ++ k ++ ": " ++ e.str))
    keepResponse

/-- `IamServiceAccount.get_iam_policy`:
`fetch_iam_serviceaccount_iam_policy(self['name'], self['uniqueId'])`. -/
def IamServiceAccount.getIamPolicy : Getter :=
  parentKeyGetter x r stack (do pure [← r.data.getItem "name", ← r.data.getItem "uniqueId"])
    "Could not get Service Account IAM Policy for " ((resourceMethods x).key r stack)

/-- `KmsCryptoKey.get_iam_policy`: `fetch_kms_cryptokey_iam_policy(self['name'])`. -/
def KmsCryptoKey.getIamPolicy : Getter :=
  parentKeyGetter x r stack (do pure [← r.data.getItem "name"])
    "Could not get Crypto Key IAM Policy for " (nameLabel r)

/-- `KmsKeyRing.get_iam_policy`: `fetch_kms_keyring_iam_policy(self['name'])`. -/
def KmsKeyRing.getIamPolicy : Getter :=
  parentKeyGetter x r stack (do pure [← r.data.getItem "name"])
    "Could not get Key Ring IAM Policy for " (nameLabel r)

/-- `PubsubSubscription.get_iam_policy`: `fetch_pubsub_subscription_iam_policy(self['name'])`. -/
def PubsubSubscription.getIamPolicy : Getter :=
  parentKeyGetter x r stack (do pure [← r.data.getItem "name"])
    "Could not get PubSub Subscription IAM Policy for " (nameLabel r)

/-- `PubsubTopic.get_iam_policy`: `fetch_pubsub_topic_iam_policy(self['name'])`. -/
def PubsubTopic.getIamPolicy : Getter :=
  parentKeyGetter x r stack (do pure [← r.data.getItem "name"])
    "Could not get PubSub Topic IAM Policy for " (nameLabel r)

/-- `StorageBucket.get_iam_policy`: `fetch_storage_bucket_iam_policy(self.key())`. -/
def StorageBucket.getIamPolicy : Getter :=
  parentKeyGetter x r stack (do pure [.str (← (resourceMethods x).key r stack)])
    "Could not get Bucket IAM Policy for " ((resourceMethods x).key r stack)

/-- `StorageBucket.get_gcs_policy`: `self['acl']` when it is true, the `KeyError` of a missing one
passed over; otherwise `fetch_storage_bucket_acls(self.key(), self.parent()['projectId'],
self.parent()['projectNumber'])`. -/
def StorageBucket.getGcsPolicy : Getter := fun a answer =>
  match r.data.getItem "acl" with
  | .ok acl =>
    if acl.truthy then ⟨false, .ok acl, a, []⟩
    else parentKeyGetter x r stack
      (do pure [.str (← (resourceMethods x).key r stack), ← parentItem x r stack "projectId",
        ← parentItem x r stack "projectNumber"])
      "Could not get Bucket ACL Policy for " ((resourceMethods x).key r stack) a answer
  | .error _ => parentKeyGetter x r stack
      (do pure [.str (← (resourceMethods x).key r stack), ← parentItem x r stack "projectId",
        ← parentItem x r stack "projectNumber"])
      "Could not get Bucket ACL Policy for " ((resourceMethods x).key r stack) a answer

/-- The path `'projects/{}/regions/{}/clusters/{}'` of a Dataproc cluster, with its region from
`self['labels']['goog-dataproc-location']`. -/
def DataprocCluster.clusterPath : Except Exn String := do
  let region ← (← r.data.getItem "labels").getItem "goog-dataproc-location"
  let project ← r.data.getItem "projectId"
  let name ← r.data.getItem "clusterName"
  pure ("projects/" ++ project.pyStr ++ "/regions/" ++ region.pyStr ++ "/clusters/" ++ name.pyStr)

/-- `DataprocCluster.get_iam_policy`: `fetch_dataproc_cluster_iam_policy(cluster)`; the clause
catches `ApiExecutionError`, `ResourceNotSupported`, `KeyError` and `TypeError`, and a `TypeError`
is reported as `'Cluster has no labels.'`. -/
def DataprocCluster.getIamPolicy : Getter := fun a answer =>
  let failed (called : Bool) (e : String) : GetterRun :=
    match (do
        let k ← (resourceMethods x).key r stack
        let pk ← parentKey x r stack
        pure ("Could not get Dataproc cluster IAM Policy for " ++ k ++ " in project " ++ pk ++
          ": " ++ e) : Except Exn String) with
    | .ok msg => ⟨called, .ok .null, a, [msg]⟩
    | .error e' => ⟨called, .error e', a, []⟩
  match DataprocCluster.clusterPath r with
  | .error (.typeError _) => failed false "Cluster has no labels."
  | .error (.keyError m) => failed false (Exn.keyError m).str
  | .error e => ⟨false, .error e, a, []⟩
  | .ok _ =>
    match answer with
    | .ok data => ⟨true, .ok data, a, []⟩
    | .error e => if e.isFetchError then failed true e.str else ⟨true, .error e, a, []⟩

/-- The getters that the classes of `resources.py` override, by class name and method name, in the
order the file defines them. -/
def getterOverrides : List ((String × String) × Getter) :=
  [(("ResourceManagerOrganization", "get_iam_policy"),
      ResourceManagerOrganization.getIamPolicy x r stack),
   (("ResourceManagerOrganization", "get_org_policy"), ResourceManagerOrganization.getOrgPolicy r),
   (("ResourceManagerOrganization", "get_access_policy"),
      ResourceManagerOrganization.getAccessPolicy r),
   (("ResourceManagerFolder", "get_iam_policy"), ResourceManagerFolder.getIamPolicy x r stack),
   (("ResourceManagerFolder", "get_org_policy"), ResourceManagerFolder.getOrgPolicy r),
   (("ResourceManagerProject", "get_iam_policy"), ResourceManagerProject.getIamPolicy x r stack),
   (("ResourceManagerProject", "get_org_policy"), ResourceManagerProject.getOrgPolicy r),
   (("ResourceManagerProject", "get_billing_info"), ResourceManagerProject.getBillingInfo x r stack),
   (("ResourceManagerProject", "get_enabled_apis"), ResourceManagerProject.getEnabledApis x r stack),
   (("BigqueryDataSet", "get_iam_policy"), BigqueryDataSet.getIamPolicy x r stack cv),
   (("BigqueryDataSet", "get_dataset_policy"), BigqueryDataSet.getDatasetPolicy x r stack cv),
   (("BillingAccount", "get_iam_policy"), BillingAccount.getIamPolicy x r stack),
   (("KubernetesCluster", "get_kubernetes_service_config"),
      KubernetesCluster.getKubernetesServiceConfig x r stack),
   (("DataprocCluster", "get_iam_policy"), DataprocCluster.getIamPolicy x r stack),
   (("IamServiceAccount", "get_iam_policy"), IamServiceAccount.getIamPolicy x r stack),
   (("KmsCryptoKey", "get_iam_policy"), KmsCryptoKey.getIamPolicy x r stack),
   (("KmsKeyRing", "get_iam_policy"), KmsKeyRing.getIamPolicy x r stack),
   (("PubsubSubscription", "get_iam_policy"), PubsubSubscription.getIamPolicy x r stack),
   (("PubsubTopic", "get_iam_policy"), PubsubTopic.getIamPolicy x r stack),
   (("StorageBucket", "get_iam_policy"), StorageBucket.getIamPolicy x r stack),
   (("StorageBucket", "get_gcs_policy"), StorageBucket.getGcsPolicy x r stack)]

/-- The body of the getter `method` of the resource: its class's override, or the template of
`Resource`. -/
def getterBody (method : String) : Getter :=
  (((getterOverrides x r stack cv).find? fun e => e.1 == (r.cls.className, method)).map
    Prod.snd).getD Resource.templateGetter

end Getters

/-- The cached getters of `Resource`, by method name, each with the field it caches under. -/
def getterFields : List (String × String) :=
  [("get_iam_policy", "iam_policy"), ("get_org_policy", "org_policy"),
   ("get_access_policy", "access_policy"), ("get_gcs_policy", "gcs_policy"),
   ("get_cloudsql_policy", "sql_policy"), ("get_dataset_policy", "dataset_policy"),
   ("get_group_members", "group_members"), ("get_billing_info", "billing_info"),
   ("get_enabled_apis", "enabled_apis"), ("get_kubernetes_service_config", "service_config")]

/-- The getter `method` of a resource whose `accept` stored `stack`: its body wrapped in
`cached`; a name that is not a getter raises `AttributeError`. -/
def getters (x : Externals) (cv : Converters) (r : Resource) (stack : List Resource)
    (method : String) : Getter :=
  match getterFields.lookup method with
  | some field => cached field (getterBody x r stack cv method)
  | none => fun a _ => ⟨false, .error (.attributeError ("'" ++ r.cls.className ++
      "' object has no attribute '" ++ method ++ "'")), a, []⟩

/-- A getter of the client shape that returns the response as it is writes no attribute. -/
theorem clientBody_keepResponse_attrs {α : Type} (args : Except Exn α)
    (message : Exn → Except Exn String) (a : Attrs) (answer : Except Exn Value) :
    (clientBody args message keepResponse a answer).attrs = a := by
  unfold clientBody
  repeat' split
  all_goals rfl

section Spec

variable {x : Externals} {r : Resource} {stack : List Resource}

/-- The getters of the family write no attribute. -/
theorem parentKeyGetter_attrs (args : Except Exn (List Value)) (text : String)
    (label : Except Exn String) (a : Attrs) (answer : Except Exn Value) :
    (parentKeyGetter x r stack args text label a answer).attrs = a :=
  clientBody_keepResponse_attrs _ _ a answer

/-- A bucket's `get_gcs_policy` writes no attribute. -/
theorem StorageBucket.getGcsPolicy_attrs (a : Attrs) (answer : Except Exn Value) :
    (StorageBucket.getGcsPolicy x r stack a answer).attrs = a := by
  unfold StorageBucket.getGcsPolicy
  split
  · split
    · rfl
    · exact parentKeyGetter_attrs _ _ _ a answer
  · exact parentKeyGetter_attrs _ _ _ a answer

/-- A Dataproc cluster's `get_iam_policy` writes no attribute. -/
theorem DataprocCluster.getIamPolicy_attrs (a : Attrs) (answer : Except Exn Value) :
    (DataprocCluster.getIamPolicy x r stack a answer).attrs = a := by
  unfold DataprocCluster.getIamPolicy
  dsimp only
  repeat' split
  all_goals rfl

/-- A getter of the family invokes the client once its arguments compute; it returns the data,
and on `ApiExecutionError` or `ResourceNotSupported` returns `None` with its one warning, which
names the key of the resource above. It writes no attribute. -/
theorem parentKeyGetter_eq {args : Except Exn (List Value)} {vs : List Value} (hargs : args = .ok vs)
    (text : String) {label : Except Exn String} {l k : String} (hl : label = .ok l)
    (hk : parentKey x r stack = .ok k) (a : Attrs) (answer : Except Exn Value) :
    parentKeyGetter x r stack args text label a answer =
      match answer with
      | .ok data => ⟨true, .ok data, a, []⟩
      | .error e => if e.isFetchError then
          ⟨true, .ok .null, a, [text ++ l ++ " in project " ++ k ++ ": " ++ e.str]⟩
        else ⟨true, .error e, a, []⟩ := by
  cases answer with
  | ok data => simp [parentKeyGetter, clientBody, hargs, keepResponse]
  | error e => cases he : e.isFetchError <;> simp [parentKeyGetter, clientBody, hargs, hl, hk, he]

/-- A bucket whose data holds a true `acl` returns it without calling the client. -/
theorem StorageBucket.getGcsPolicy_of_acl {acl : Value} (h : r.data.getItem "acl" = .ok acl)
    (ht : acl.truthy = true) (a : Attrs) (answer : Except Exn Value) :
    StorageBucket.getGcsPolicy x r stack a answer = ⟨false, .ok acl, a, []⟩ := by
  simp [StorageBucket.getGcsPolicy, h, ht]

/-- Reading a resource's data raises `KeyError` only. -/
theorem Data.getItem_error {d : Data} {k : String} {e : Exn} (h : d.getItem k = .error e) :
    ∃ m, e = .keyError m := by
  unfold Data.getItem at h
  split at h
  · cases h
  · exact ⟨_, (Except.error.inj h).symm⟩

/-- Indexing a value raises `KeyError` or `TypeError` only. -/
theorem Value.getItem_error {v : Value} {k : String} {e : Exn} (h : v.getItem k = .error e) :
    ∃ m, e = .keyError m ∨ e = .typeError m := by
  cases v with
  | obj fields =>
    simp only [Value.getItem] at h
    split at h
    · cases h
    · exact ⟨_, .inl (Except.error.inj h).symm⟩
  | _ => exact ⟨_, .inr (Except.error.inj h).symm⟩

/-- The path of a Dataproc cluster raises `KeyError` or `TypeError` only. -/
theorem DataprocCluster.clusterPath_error {e : Exn} (h : DataprocCluster.clusterPath r = .error e) :
    ∃ m, e = .keyError m ∨ e = .typeError m := by
  simp only [DataprocCluster.clusterPath, bind, Except.bind, pure, Except.pure] at h
  repeat' split at h
  all_goals cases h
  all_goals first
    | exact Value.getItem_error ‹_›
    | exact (Data.getItem_error ‹_›).imp fun _ h => .inl h

/-- Whatever its data, a Dataproc cluster's getter returns when the client returns or raises
`ApiExecutionError` or `ResourceNotSupported` and the cluster's and its parent's keys compute: a
missing field or label, or labels that are not a dict, become its warning. -/
theorem DataprocCluster.getIamPolicy_res {k pk : String}
    (hk : (resourceMethods x).key r stack = .ok k) (hpk : parentKey x r stack = .ok pk)
    (a : Attrs) {answer : Except Exn Value}
    (hanswer : ∀ e, answer = .error e → e.isFetchError = true) :
    ∃ v, (DataprocCluster.getIamPolicy x r stack a answer).res = .ok v := by
  cases hp : DataprocCluster.clusterPath r with
  | error e =>
    obtain ⟨m, rfl | rfl⟩ := DataprocCluster.clusterPath_error hp <;>
      exact ⟨.null, by simp [DataprocCluster.getIamPolicy, hp, hk, hpk]⟩
  | ok path =>
    cases answer with
    | ok data => exact ⟨data, by simp [DataprocCluster.getIamPolicy, hp]⟩
    | error e => exact ⟨.null, by simp [DataprocCluster.getIamPolicy, hp, hanswer e rfl, hk, hpk]⟩

end Spec

end InventoryCrawler
