import InventoryCrawler.Prefill

/-!
# The gates of a project

Some iterators of a project run only when a check on the project holds: the compute iterators
when `compute_api_enabled()`, `KubernetesClusterIterator` when `container_api_enabled()`, and so
on. Three of the checks are `self.billing_enabled() and self.is_api_enabled(name)`, the fourth is
`is_api_enabled` alone. `is_api_enabled` reads `_enabled_service_names`, which `__init__` sets to
`None` and `get_enabled_apis` to the set of names of the enabled services; an unknown or empty set
lets every service through. `billing_enabled` calls `get_billing_info()` twice, with no client.

The attributes a project can be in, from a fresh one, after any calls of `get_billing_info` and
`get_enabled_apis` (`ResourceManagerProject.Reachable`), always hold `None` or a set in
`_enabled_service_names` (`serviceNamesKnown_of_reachable`), so `is_api_enabled` never raises. But
`billing_enabled` reads the billing info through `get_billing_info()`, and that reads the cache
only when it is set. When it is not, the body runs with `client=None`: for an active project,
looking up `fetch_billing_project_info` on `None` raises `AttributeError`, and so do the three
checks that call `billing_enabled` (`billing_gate_raises_without_cache`).

Every getter of a project writes no attribute but its own cache, and `get_enabled_apis` also
`_enabled_service_names` (`getterBody_attrs_of_ne`). Once both getters have cached a value, no
sequence of getter calls changes the two caches or the set of names (`attrsAfter_of_cached`).
-/

namespace InventoryCrawler

/-- `name in v` for a string `name`: an element of a list or set, a key of a dict, a substring of
a string; any other value raises `TypeError`. -/
def Value.containsStr (v : Value) (name : String) : Except Exn Bool :=
  match v with
  | .list vs => .ok (vs.any fun w => match w with
      | .str s => s == name
      | _ => false)
  | .obj fields => .ok (fields.any fun f => f.1 == name)
  | .str s => .ok (isIn name s)
  | v => .error (.typeError ("argument of type '" ++ v.typeName ++ "' is not iterable"))

namespace ResourceManagerProject

/-- The attributes of a project that `__init__` leaves: `_enabled_service_names` is `None`, and
no cache is set. -/
def initAttrs : Attrs := Function.update (fun _ => none) "_enabled_service_names" (some .null)

/-- The attributes a project can be in: those that some calls of `get_billing_info` and
`get_enabled_apis`, with any answers of the client, leave on a fresh project. -/
def Reachable (x : Externals) (cv : Converters) (r : Resource) (stack : List Resource)
    (a : Attrs) : Prop :=
  ∃ calls : List Call, (∀ c ∈ calls, c.method = "get_billing_info" ∨
    c.method = "get_enabled_apis") ∧ a = attrsAfter (getters x cv r stack) initAttrs calls

/-- The exception of a client method looked up on `client=None`. -/
def noClientError (method : String) : Exn :=
  .attributeError ("'NoneType' object has no attribute '" ++ method ++ "'")

variable (r : Resource)

/-- `self.get_billing_info()` as `billing_enabled` calls it, with `client=None`: the cached value
if there is one; otherwise, for an enumerable project, `client.fetch_billing_project_info` is
looked up on `None` and raises before the arguments are computed, and for any other project the
body returns `{}`, which is cached. No client is invoked. -/
def getBillingInfoWithoutClient (a : Attrs) : GetterRun :=
  cached "billing_info" (whenEnumerable r fun a _ =>
    ⟨false, .error (noClientError "fetch_billing_project_info"), a, []⟩) a (.ok .null)

/-- `ResourceManagerProject.billing_enabled()`: `if self.get_billing_info(): return
self.get_billing_info().get('billingEnabled', False)`, and `True` otherwise. What it returns or
raises, and the attributes after it. -/
def billingEnabled (a : Attrs) : Except Exn Value × Attrs :=
  match (getBillingInfoWithoutClient r a).res with
  | .error e => (.error e, (getBillingInfoWithoutClient r a).attrs)
  | .ok info =>
    if info.truthy then
      match (getBillingInfoWithoutClient r (getBillingInfoWithoutClient r a).attrs).res with
      | .error e => (.error e,
          (getBillingInfoWithoutClient r (getBillingInfoWithoutClient r a).attrs).attrs)
      | .ok info' => (info'.get "billingEnabled" (.bool false),
          (getBillingInfoWithoutClient r (getBillingInfoWithoutClient r a).attrs).attrs)
    else (.ok (.bool true), (getBillingInfoWithoutClient r a).attrs)

/-- `ResourceManagerProject.is_api_enabled(service_name)`: membership in
`self._enabled_service_names` when it is a non-empty set, and `True` when it is `None` or empty. -/
def isApiEnabled (a : Attrs) (serviceName : String) : Except Exn Bool :=
  match a "_enabled_service_names" with
  | none => .error (.attributeError
      "'ResourceManagerProject' object has no attribute '_enabled_service_names'")
  | some names => if names.truthy then names.containsStr serviceName else .ok true

/-- `self.billing_enabled() and self.is_api_enabled(service_name)`: the value of `billing_enabled`
when it is false, and the answer of `is_api_enabled` otherwise. -/
def billingAndApiEnabled (a : Attrs) (serviceName : String) : Except Exn Value × Attrs :=
  match billingEnabled r a with
  | (.error e, a') => (.error e, a')
  | (.ok b, a') => if b.truthy then ((isApiEnabled a' serviceName).map .bool, a') else (.ok b, a')

/-- `ResourceManagerProject.bigquery_api_enabled()`. -/
def bigqueryApiEnabled (a : Attrs) : Except Exn Value × Attrs :=
  billingAndApiEnabled r a "bigquery-json.googleapis.com"

/-- `ResourceManagerProject.compute_api_enabled()`. -/
def computeApiEnabled (a : Attrs) : Except Exn Value × Attrs :=
  billingAndApiEnabled r a "compute.googleapis.com"

/-- `ResourceManagerProject.container_api_enabled()`. -/
def containerApiEnabled (a : Attrs) : Except Exn Value × Attrs :=
  billingAndApiEnabled r a "container.googleapis.com"

/-- `ResourceManagerProject.storage_api_enabled()`: no billing check. -/
def storageApiEnabled (a : Attrs) : Except Exn Bool :=
  isApiEnabled a "storage-component.googleapis.com"

/-! ### `billing_enabled` -/

section Billing

variable {r} {a : Attrs}

/-- With the billing info cached, `get_billing_info()` returns it. -/
theorem getBillingInfoWithoutClient_of_some {v : Value} (h : a (cacheAttr "billing_info") = some v) :
    getBillingInfoWithoutClient r a = ⟨false, .ok v, a, []⟩ :=
  cached_of_some h

/-- With nothing cached, `get_billing_info()` of an active project looks up the client method on
`None` and raises. -/
theorem getBillingInfoWithoutClient_of_active (h : a (cacheAttr "billing_info") = none)
    (he : enumerable r = .ok true) :
    getBillingInfoWithoutClient r a =
      ⟨false, .error (noClientError "fetch_billing_project_info"), a, []⟩ := by
  simp [getBillingInfoWithoutClient, cached, whenEnumerable, h, he]

/-- With nothing cached, `get_billing_info()` of a project that is not active caches and returns
`{}`. -/
theorem getBillingInfoWithoutClient_of_inactive (h : a (cacheAttr "billing_info") = none)
    (he : enumerable r = .ok false) :
    getBillingInfoWithoutClient r a =
      ⟨false, .ok (.obj []), Function.update a (cacheAttr "billing_info") (some (.obj [])), []⟩ := by
  simp [getBillingInfoWithoutClient, cached, whenEnumerable, h, he]

/-- With billing info cached, `billing_enabled` reads it twice and changes nothing. -/
theorem billingEnabled_of_some {v : Value} (h : a (cacheAttr "billing_info") = some v) :
    billingEnabled r a =
      (if v.truthy then v.get "billingEnabled" (.bool false) else .ok (.bool true), a) := by
  unfold billingEnabled
  simp only [getBillingInfoWithoutClient_of_some h]
  split <;> rfl

/-- With no billing info cached, an active project makes `billing_enabled` raise. -/
theorem billingEnabled_of_active (h : a (cacheAttr "billing_info") = none)
    (he : enumerable r = .ok true) :
    billingEnabled r a = (.error (noClientError "fetch_billing_project_info"), a) := by
  simp [billingEnabled, getBillingInfoWithoutClient_of_active h he]

/-- With no billing info cached, a project that is not active caches `{}`, and `billing_enabled`
returns `True`. -/
theorem billingEnabled_of_inactive (h : a (cacheAttr "billing_info") = none)
    (he : enumerable r = .ok false) :
    billingEnabled r a =
      (.ok (.bool true), Function.update a (cacheAttr "billing_info") (some (.obj []))) := by
  simp [billingEnabled, getBillingInfoWithoutClient_of_inactive h he, Value.truthy]

/-- The checks that call `billing_enabled` raise what it raises. -/
theorem billingAndApiEnabled_of_error {e : Exn} {a' : Attrs} (h : billingEnabled r a = (.error e, a'))
    (serviceName : String) : billingAndApiEnabled r a serviceName = (.error e, a') := by
  simp [billingAndApiEnabled, h]

end Billing

/-! ### `is_api_enabled` over every reachable state -/

/-- `_enabled_service_names` holds `None` or a set of names. -/
def ServiceNamesKnown (a : Attrs) : Prop :=
  a "_enabled_service_names" = some .null ∨ ∃ names, a "_enabled_service_names" = some (.list names)

/-- With `None` or a set in `_enabled_service_names`, `is_api_enabled` returns, and returns `True`
when it is `None` or empty. -/
theorem isApiEnabled_of_known {a : Attrs} (h : ServiceNamesKnown a) (name : String) :
    ∃ b, isApiEnabled a name = .ok b ∧
      (a "_enabled_service_names" = some .null ∨ a "_enabled_service_names" = some (.list []) →
        b = true) := by
  rcases h with h | ⟨names, h⟩
  · exact ⟨true, by simp [isApiEnabled, h, Value.truthy], fun _ => rfl⟩
  · cases names with
    | nil => exact ⟨true, by simp [isApiEnabled, h, Value.truthy], fun _ => rfl⟩
    | cons n ns =>
      simp only [isApiEnabled, h, Value.truthy, List.isEmpty_cons, Bool.not_false, if_true,
        Value.containsStr]
      exact ⟨_, rfl, fun hu => by simp at hu⟩

/-- A fresh project has no enabled services recorded. -/
theorem serviceNamesKnown_initAttrs : ServiceNamesKnown initAttrs := .inl rfl

/-- A project's two getters, in `cached`. -/
theorem getters_project (x : Externals) (cv : Converters) {r : Resource} (stack : List Resource)
    (hr : r.cls.className = "ResourceManagerProject") :
    getters x cv r stack "get_billing_info" = cached "billing_info" (getBillingInfo x r stack) ∧
      getters x cv r stack "get_enabled_apis" =
        cached "enabled_apis" (getEnabledApis x r stack) := by
  rw [getters_of_lookup x cv r stack
      (show getterFields.lookup "get_billing_info" = some "billing_info" from rfl),
    getters_of_lookup x cv r stack
      (show getterFields.lookup "get_enabled_apis" = some "enabled_apis" from rfl)]
  simp only [getterBody, hr]
  exact ⟨rfl, rfl⟩

/-- `get_billing_info` with a client writes no attribute but its cache. -/
theorem getBillingInfo_attrs (x : Externals) (r : Resource) (stack : List Resource) (a : Attrs)
    (answer : Except Exn Value) : (getBillingInfo x r stack a answer).attrs = a := by
  unfold getBillingInfo numberGetter whenEnumerable clientBody
  repeat' split
  all_goals rfl

/-- `get_enabled_apis` leaves `_enabled_service_names` as it was, or sets it to a set. -/
theorem getEnabledApis_serviceNames (x : Externals) (r : Resource) (stack : List Resource)
    (a : Attrs) (answer : Except Exn Value) :
    (getEnabledApis x r stack a answer).attrs "_enabled_service_names" =
        a "_enabled_service_names" ∨
      ∃ names, (getEnabledApis x r stack a answer).attrs "_enabled_service_names" =
        some (.list names) := by
  unfold getEnabledApis
  split
  · exact .inl rfl
  · split
    · exact .inr ⟨_, by dsimp only; exact Function.update_same _ _ _⟩
    · exact .inl rfl

/-- Either getter keeps `None` or a set in `_enabled_service_names`. -/
theorem serviceNamesKnown_step (x : Externals) (cv : Converters) {r : Resource}
    (stack : List Resource) (hr : r.cls.className = "ResourceManagerProject") {a : Attrs}
    {c : Call} (hc : c.method = "get_billing_info" ∨ c.method = "get_enabled_apis")
    (h : ServiceNamesKnown a) : ServiceNamesKnown (getters x cv r stack c.method a c.answer).attrs := by
  obtain ⟨gbill, gapis⟩ := getters_project x cv stack hr
  rcases hc with hm | hm <;> rw [hm]
  · rw [gbill]
    cases hb : a (cacheAttr "billing_info") with
    | some v => rwa [cached_of_some hb]
    | none =>
      unfold ServiceNamesKnown
      rwa [cached_attrs_of_ne hb (by decide), getBillingInfo_attrs]
  · rw [gapis]
    cases hb : a (cacheAttr "enabled_apis") with
    | some v => rwa [cached_of_some hb]
    | none =>
      unfold ServiceNamesKnown
      rw [cached_attrs_of_ne hb (by decide)]
      rcases getEnabledApis_serviceNames x r stack a c.answer with he | he
      · rwa [he]
      · exact .inr he

/-- Every reachable state keeps `None` or a set in `_enabled_service_names`. -/
theorem serviceNamesKnown_of_reachable (x : Externals) (cv : Converters) {r : Resource}
    (stack : List Resource) (hr : r.cls.className = "ResourceManagerProject") {a : Attrs}
    (ha : Reachable x cv r stack a) : ServiceNamesKnown a := by
  obtain ⟨calls, hcalls, rfl⟩ := ha
  suffices ∀ (a : Attrs), ServiceNamesKnown a → ServiceNamesKnown (attrsAfter (getters x cv r stack) a calls) from
    this _ serviceNamesKnown_initAttrs
  induction calls with
  | nil => exact fun _ h => h
  | cons c cs ih =>
    exact fun a h => ih (fun d hd => hcalls d (List.mem_cons_of_mem _ hd)) _
      (serviceNamesKnown_step x cv stack hr (hcalls c (List.mem_cons_self _ _)) h)

/-- What the fresh attributes satisfy and either getter keeps holds of every reachable state. -/
theorem reachable_induction (x : Externals) (cv : Converters) {r : Resource}
    (stack : List Resource) (P : Attrs → Prop) (h0 : P initAttrs)
    (hstep : ∀ a (c : Call), (c.method = "get_billing_info" ∨ c.method = "get_enabled_apis") →
      P a → P (getters x cv r stack c.method a c.answer).attrs)
    {a : Attrs} (ha : Reachable x cv r stack a) : P a := by
  obtain ⟨calls, hcalls, rfl⟩ := ha
  suffices ∀ a, P a → P (attrsAfter (getters x cv r stack) a calls) from this _ h0
  induction calls with
  | nil => exact fun _ h => h
  | cons c cs ih =>
    exact fun a h => ih (fun d hd => hcalls d (List.mem_cons_of_mem _ hd)) _
      (hstep a c (hcalls c (List.mem_cons_self _ _)) h)

/-! ### Projects that are not active -/

/-- The states of a project that is not active: no billing info cached, or `{}`; and `None` or an
empty set in `_enabled_service_names`. -/
def InactiveAttrs (a : Attrs) : Prop :=
  (a (cacheAttr "billing_info") = none ∨ a (cacheAttr "billing_info") = some (.obj [])) ∧
    (a "_enabled_service_names" = some .null ∨ a "_enabled_service_names" = some (.list []))

/-- On a project that is not active, either getter returns `{}` or `[]` without calling the
client, and keeps its states among `InactiveAttrs`. -/
theorem inactiveAttrs_step (x : Externals) (cv : Converters) {r : Resource}
    (stack : List Resource) (hr : r.cls.className = "ResourceManagerProject")
    (he : enumerable r = .ok false) (a : Attrs) (c : Call)
    (hc : c.method = "get_billing_info" ∨ c.method = "get_enabled_apis") (h : InactiveAttrs a) :
    InactiveAttrs (getters x cv r stack c.method a c.answer).attrs := by
  obtain ⟨gbill, gapis⟩ := getters_project x cv stack hr
  rcases hc with hm | hm <;> rw [hm]
  · rw [gbill]
    cases hb : a (cacheAttr "billing_info") with
    | some v => rwa [cached_of_some hb]
    | none =>
      have hg : getBillingInfo x r stack a c.answer = ⟨false, .ok (.obj []), a, []⟩ := by
        simp [getBillingInfo, numberGetter, whenEnumerable, he]
      rw [cached_of_ok hb hg]
      exact ⟨.inr (by simp), by simpa [cacheAttr] using h.2⟩
  · rw [gapis]
    cases hb : a (cacheAttr "enabled_apis") with
    | some v => rwa [cached_of_some hb]
    | none =>
      have hg : getEnabledApis x r stack a c.answer =
          ⟨false, .ok (.list []), Function.update a "_enabled_service_names" (some (.list [])), []⟩ := by
        simp [getEnabledApis, fetchEnabledApis, he, serviceNames, Value.iterItems]
        rfl
      rw [cached_of_ok hb hg]
      exact ⟨by simpa [cacheAttr] using h.1, .inr (by simp [cacheAttr])⟩

/-- Every state a project that is not active can reach is among `InactiveAttrs`. -/
theorem inactiveAttrs_of_reachable (x : Externals) (cv : Converters) {r : Resource}
    (stack : List Resource) (hr : r.cls.className = "ResourceManagerProject")
    (he : enumerable r = .ok false) {a : Attrs} (ha : Reachable x cv r stack a) :
    InactiveAttrs a :=
  reachable_induction x cv stack InactiveAttrs ⟨.inl (by simp [initAttrs, cacheAttr]), .inl rfl⟩
    (inactiveAttrs_step x cv stack hr he) ha

/-- On a project that is not active, in such a state, `billing_enabled` returns `True` and leaves
`_enabled_service_names` as it was. -/
theorem billingEnabled_of_inactiveAttrs {r : Resource} {a : Attrs} (h : InactiveAttrs a)
    (he : enumerable r = .ok false) :
    ∃ a', billingEnabled r a = (.ok (.bool true), a') ∧
      a' "_enabled_service_names" = a "_enabled_service_names" := by
  rcases h.1 with hb | hb
  · exact ⟨_, billingEnabled_of_inactive hb he, by simp [cacheAttr]⟩
  · exact ⟨a, by simp [billingEnabled_of_some hb, Value.truthy], rfl⟩

/-- With `None` or an empty set in `_enabled_service_names`, `is_api_enabled` returns `True` for
every service. -/
theorem isApiEnabled_of_empty {a : Attrs}
    (h : a "_enabled_service_names" = some .null ∨ a "_enabled_service_names" = some (.list []))
    (name : String) : isApiEnabled a name = .ok true := by
  rcases h with hn | hn <;> simp [isApiEnabled, hn, Value.truthy]

/-- On a project that is not active, in such a state, `billing_enabled() and
self.is_api_enabled(name)` returns `True`. -/
theorem billingAndApiEnabled_of_inactiveAttrs {r : Resource} {a : Attrs} (h : InactiveAttrs a)
    (he : enumerable r = .ok false) (name : String) :
    (billingAndApiEnabled r a name).1 = .ok (.bool true) := by
  obtain ⟨a', hbill, hnames⟩ := billingEnabled_of_inactiveAttrs h he
  simp [billingAndApiEnabled, hbill, Value.truthy, isApiEnabled_of_empty (hnames ▸ h.2) name,
    Except.map]

/-! ### Once both getters have run -/

/-- The attributes that a check of a project reads, with the cache of `get_enabled_apis`. -/
def checkAttrs : List String :=
  [cacheAttr "billing_info", cacheAttr "enabled_apis", "_enabled_service_names"]

/-- No cache attribute is `_enabled_service_names`. -/
theorem cacheAttr_ne_names (fieldName : String) : cacheAttr fieldName ≠ "_enabled_service_names" := by
  intro h
  have := congrArg (fun s : String => s.data.take 2) h
  simp [cacheAttr, String.data_append] at this

/-- A project's getters of the client shape write no attribute. -/
theorem numberGetter_attrs (x : Externals) (r : Resource) (stack : List Resource) (text : String)
    (a : Attrs) (answer : Except Exn Value) : (numberGetter x r stack text a answer).attrs = a := by
  unfold numberGetter whenEnumerable
  split
  · rfl
  · exact clientBody_keepResponse_attrs _ _ a answer
  · rfl

/-- `get_enabled_apis` writes no attribute but `_enabled_service_names`. -/
theorem getEnabledApis_attrs_of_ne (x : Externals) (r : Resource) (stack : List Resource)
    (a : Attrs) (answer : Except Exn Value) {k : String} (hk : k ≠ "_enabled_service_names") :
    (getEnabledApis x r stack a answer).attrs k = a k := by
  unfold getEnabledApis
  repeat' split
  all_goals simp [Function.update_noteq hk]

/-- The body of a project's getter writes no attribute, but for `get_enabled_apis`, which writes
`_enabled_service_names`. -/
theorem getterBody_attrs_of_ne (x : Externals) (cv : Converters) {r : Resource}
    (stack : List Resource) (hr : r.cls.className = "ResourceManagerProject") (method : String)
    (a : Attrs) (answer : Except Exn Value) {k : String}
    (hk : method = "get_enabled_apis" → k ≠ "_enabled_service_names") :
    (getterBody x r stack cv method a answer).attrs k = a k := by
  unfold getterBody
  cases h : (getterOverrides x r stack cv).find? fun e => e.1 == (r.cls.className, method) with
  | none => rfl
  | some e =>
    have hbeq := List.find?_some h
    have hmem := List.mem_of_find?_eq_some h
    simp only [getterOverrides, List.mem_cons, List.mem_singleton, List.not_mem_nil,
      or_false] at hmem
    repeat' rcases hmem with rfl | hmem
    all_goals simp [hr] at hbeq
    · exact congrFun (numberGetter_attrs x r stack _ a answer) k
    · exact congrFun (clientBody_keepResponse_attrs (r.data.getItem "name") (fun e => .ok e.str) a
        answer) k
    · exact congrFun (numberGetter_attrs x r stack _ a answer) k
    · exact getEnabledApis_attrs_of_ne x r stack a answer (hk hbeq.symm)

/-- With the same billing info cached and the same `_enabled_service_names`, the checks that
call `billing_enabled` return the same. -/
theorem billingAndApiEnabled_congr {r : Resource} {a a' : Attrs} {v : Value}
    (hb : a (cacheAttr "billing_info") = some v) (hb' : a' (cacheAttr "billing_info") = some v)
    (hn : a' "_enabled_service_names" = a "_enabled_service_names") (serviceName : String) :
    (billingAndApiEnabled r a' serviceName).1 = (billingAndApiEnabled r a serviceName).1 := by
  rw [billingAndApiEnabled, billingAndApiEnabled, billingEnabled_of_some hb,
    billingEnabled_of_some hb']
  generalize (if v.truthy then v.get "billingEnabled" (.bool false) else .ok (.bool true) :
    Except Exn Value) = b
  cases b with
  | error e => rfl
  | ok b =>
    simp only [isApiEnabled, hn]
    split <;> rfl

/-- Once a project has cached both `get_billing_info` and `get_enabled_apis`, a call of any of
its getters leaves the attributes of `checkAttrs` as they are. -/
theorem getters_attrs_of_cached (x : Externals) (cv : Converters) {r : Resource}
    (stack : List Resource) (hr : r.cls.className = "ResourceManagerProject") {a : Attrs}
    (hb : (a (cacheAttr "billing_info")).isSome) (he : (a (cacheAttr "enabled_apis")).isSome)
    (method : String) (answer : Except Exn Value) {k : String} (hk : k ∈ checkAttrs) :
    (getters x cv r stack method a answer).attrs k = a k := by
  cases hfield : getterFields.lookup method with
  | none => simp [getters, hfield]
  | some field =>
    rw [getters_of_lookup x cv r stack hfield]
    cases hc : a (cacheAttr field) with
    | some v => rw [cached_of_some hc]
    | none =>
      have hne : k ≠ cacheAttr field := by
        simp only [checkAttrs, List.mem_cons, List.mem_singleton, List.not_mem_nil,
          or_false] at hk
        rcases hk with rfl | rfl | rfl
        · exact fun h => by simp [h, hc] at hb
        · exact fun h => by simp [h, hc] at he
        · exact (cacheAttr_ne_names field).symm
      rw [cached_attrs_of_ne hc hne]
      refine getterBody_attrs_of_ne x cv stack hr method a answer fun hm _ => ?_
      subst hm
      obtain rfl : field = "enabled_apis" := Option.some.inj (hfield.symm.trans rfl)
      simp [hc] at he

/-- Once a project has cached both getters, no sequence of calls of its getters, with any answers
of the client, changes the attributes of `checkAttrs`. -/
theorem attrsAfter_of_cached (x : Externals) (cv : Converters) {r : Resource}
    (stack : List Resource) (hr : r.cls.className = "ResourceManagerProject") (calls : List Call) :
    ∀ {a : Attrs}, (a (cacheAttr "billing_info")).isSome → (a (cacheAttr "enabled_apis")).isSome →
      ∀ k ∈ checkAttrs, attrsAfter (getters x cv r stack) a calls k = a k := by
  induction calls with
  | nil => exact fun _ _ _ _ => rfl
  | cons c cs ih =>
    intro a hb he k hk
    have hstep := fun k (hk : k ∈ checkAttrs) =>
      getters_attrs_of_cached x cv stack hr hb he c.method c.answer hk
    rw [attrsAfter, ih (by rwa [hstep _ (by simp [checkAttrs])])
      (by rwa [hstep _ (by simp [checkAttrs])]) k hk, hstep k hk]

end ResourceManagerProject

open ResourceManagerProject in
/-- For every project and every attributes it can reach by calls of `get_billing_info` and
`get_enabled_apis`, with any answers of the client: `is_api_enabled`, and with it
`storage_api_enabled`, returns without raising, and returns `True` when the set of enabled
services is `None` or empty. `billing_enabled` reads cached billing info and returns `True` when
it is `None` or empty; with no billing info cached it returns `True` for a project that is not
active. But for an active project with no billing info cached, `billing_enabled` and the three
checks that call it raise the `AttributeError` of `None.fetch_billing_project_info`. -/
theorem billing_gate_raises_without_cache (x : Externals) (cv : Converters) (r : Resource)
    (stack : List Resource) (hr : r.cls.className = "ResourceManagerProject") (a : Attrs)
    (ha : ResourceManagerProject.Reachable x cv r stack a) :
    (∀ name, ∃ b, isApiEnabled a name = .ok b ∧
      (a "_enabled_service_names" = some .null ∨ a "_enabled_service_names" = some (.list []) →
        b = true)) ∧
    (∀ v, a (cacheAttr "billing_info") = some v →
      (billingEnabled r a).1 =
        if v.truthy then v.get "billingEnabled" (.bool false) else .ok (.bool true)) ∧
    (a (cacheAttr "billing_info") = none → enumerable r = .ok false →
      (billingEnabled r a).1 = .ok (.bool true)) ∧
    (a (cacheAttr "billing_info") = none → enumerable r = .ok true →
      ∀ check ∈ [billingEnabled r, bigqueryApiEnabled r, computeApiEnabled r,
          containerApiEnabled r],
        (check a).1 = .error (noClientError "fetch_billing_project_info")) := by
  refine ⟨isApiEnabled_of_known (serviceNamesKnown_of_reachable x cv stack hr ha),
    fun v hv => by rw [billingEnabled_of_some hv], fun hb he => by rw [billingEnabled_of_inactive hb he],
    fun hb he check hcheck => ?_⟩
  have hbill := billingEnabled_of_active hb he
  simp only [List.mem_cons, List.mem_singleton, List.not_mem_nil, or_false] at hcheck
  rcases hcheck with rfl | rfl | rfl | rfl
  · rw [hbill]
  all_goals exact congrArg Prod.fst (billingAndApiEnabled_of_error hbill _)

/-- An active project of the sample organization. -/
def activeProject : Resource :=
  ⟨.project, [("projectId", .str "p1"), ("projectNumber", .num 11),
    ("lifecycleState", .str "ACTIVE")], false, []⟩

/-- A fresh active project, before any getter call: `compute_api_enabled()` raises. -/
theorem billing_gate_raises_without_cache_fresh :
    ResourceManagerProject.Reachable sampleExternals sampleConverters activeProject [sampleOrg]
        ResourceManagerProject.initAttrs ∧
      (ResourceManagerProject.computeApiEnabled activeProject ResourceManagerProject.initAttrs).1 =
        .error (ResourceManagerProject.noClientError "fetch_billing_project_info") :=
  have hreach : ResourceManagerProject.Reachable sampleExternals sampleConverters activeProject
      [sampleOrg] ResourceManagerProject.initAttrs := ⟨[], by simp, rfl⟩
  ⟨hreach, (billing_gate_raises_without_cache sampleExternals sampleConverters activeProject
    [sampleOrg] rfl _ hreach).2.2.2 rfl rfl _ (by simp)⟩

end InventoryCrawler
