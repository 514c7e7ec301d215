import InventoryCrawler.Project

/-!
# The instance groups of a project

`ComputeInstanceGroupIterator.iter()` is the one compute iterator with its own body. When
`compute_api_enabled()` holds, it lists the project's instance groups, and for each one asks the
client for the URLs of its instances and adds them to the record as `instance_urls`, before it
yields the record as a `compute_instancegroup` resource. The call for the URLs sits in
`try: ... except ResourceNotSupported`, and the whole loop in another `try` with the same clause.

So a record whose call is not supported is yielded as it came, but any other exception of that
call, `ApiExecutionError` among them, leaves both clauses: it ends the generator, the record and
every record after it are never yielded, and the iterator raises
(`instance_groups_stop_at_enrichment_error`).
-/

namespace InventoryCrawler

/-- `FACTORIES[name].create_new(data)`: a resource of the entry's class, not a root, with no
warning. -/
def ResourceClass.createNew (cls : ResourceClass) (data : Data) : Resource := ⟨cls, data, false, []⟩

/-- `data[key] = value` on a dict: the value replaces the key's value in place, or is added at the
end. -/
def Data.set : Data → String → Value → Data
  | [], k, v => [(k, v)]
  | (k', w) :: d, k, v => if k' = k then (k, v) :: d else (k', w) :: Data.set d k v

/-- `os.path.basename(p)`: what follows the last `/` of a string; other values raise
`TypeError`. -/
def pyBasename : Value → Except Exn String
  | .str s => .ok (afterLastSlash s)
  | v => .error (.typeError ("expected str, bytes or os.PathLike object, not " ++ v.typeName))

/-- What the client answers to a project's instance-group calls: the records that
`iter_compute_instancegroups(project_number)` yields, each with what `fetch_compute_ig_instances`
answers for it if it is called, and the exception the listing ends with, if any. The records'
metadata is not modelled. -/
structure InstanceGroupAnswers where
  records : List (Data × Except Exn Value)
  raises : Option Exn

namespace ComputeInstanceGroupIterator

/-- The arguments of the call for one record, after the project number: `data['name']`,
`zone=os.path.basename(data.get('zone', ''))` and
`region=os.path.basename(data.get('region', ''))`. -/
def callArgs (data : Data) : Except Exn (Value × String × String) := do
  let name ← (Value.obj data).getItem "name"
  let zone ← pyBasename ((data.lookup "zone").getD (.str ""))
  let region ← pyBasename ((data.lookup "region").getD (.str ""))
  pure (name, zone, region)

/-- The inner `try` for one record: `instance_urls, _ = gcp.fetch_compute_ig_instances(...)` and
`data['instance_urls'] = instance_urls`, with `except ResourceNotSupported` keeping the record as
it is. `self.resource['projectNumber']`, the first argument, computed before the loop. -/
def enrich (data : Data) (answer : Except Exn Value) : Except Exn Data :=
  match (do let _ ← callArgs data; answer : Except Exn Value) with
  | .ok instanceUrls => .ok (data.set "instance_urls" instanceUrls)
  | .error (.resourceNotSupported _) => .ok data
  | .error e => .error e

/-- The `for` loop over the records: each record, enriched, is yielded as a
`compute_instancegroup` resource; the first exception ends the generator; after the last record
comes the listing's own exception, if any. -/
def loop (raises : Option Exn) : List (Data × Except Exn Value) → List Resource × Option Exn
  | [] => ([], raises)
  | (data, answer) :: rest =>
    match enrich data answer with
    | .ok data' => (ResourceClass.computeInstanceGroup.createNew data' :: (loop raises rest).1,
        (loop raises rest).2)
    | .error e => ([], some e)

/-- The outer `except ResourceNotSupported`: it ends the generator without an exception. -/
def caught : Option Exn → Option Exn
  | some (.resourceNotSupported _) => none
  | raised => raised

/-- `ComputeInstanceGroupIterator(project, client).iter()` on a project whose attributes are `a`:
nothing unless `compute_api_enabled()`; then the loop over the listing of
`self.resource['projectNumber']`, in the outer `try`. What it yields, and the exception it ends
with. -/
def iter (project : Resource) (a : Attrs) (answers : InstanceGroupAnswers) :
    List Resource × Option Exn :=
  match (ResourceManagerProject.computeApiEnabled project a).1 with
  | .error e => ([], some e)
  | .ok enabled =>
    if enabled.truthy then
      match project.data.getItem "projectNumber" with
      | .error e => ([], some e)
      | .ok _ =>
        ((loop answers.raises answers.records).1, caught (loop answers.raises answers.records).2)
    else ([], none)

section Enrich

variable {data : Data} {args : Value × String × String} (hargs : callArgs data = .ok args)
include hargs

/-- With the arguments computed, the outcome of a record is decided by the answer of its call. -/
theorem enrich_eq (answer : Except Exn Value) :
    enrich data answer = match answer with
      | .ok instanceUrls => .ok (data.set "instance_urls" instanceUrls)
      | .error (.resourceNotSupported _) => .ok data
      | .error e => .error e := by
  simp only [enrich, hargs]
  rfl

/-- A record whose call answers gets the answer as `instance_urls`. -/
theorem enrich_of_ok (instanceUrls : Value) :
    enrich data (.ok instanceUrls) = .ok (data.set "instance_urls" instanceUrls) := by
  rw [enrich_eq hargs]

/-- A record whose call is not supported is kept as it came. -/
theorem enrich_of_not_supported (msg : String) :
    enrich data (.error (.resourceNotSupported msg)) = .ok data := by
  rw [enrich_eq hargs]

/-- Any other exception of the call escapes. -/
theorem enrich_of_error {e : Exn} (he : ∀ msg, e ≠ .resourceNotSupported msg) :
    enrich data (.error e) = .error e := by
  rw [enrich_eq hargs]
  cases e <;> first | rfl | exact absurd rfl (he _)

end Enrich

/-- The loop yields the enriched records before the first one whose enrichment raises, and then
raises that exception; with no such record it yields them all and ends as the listing ends. -/
theorem loop_spec (raises : Option Exn) (records : List (Data × Except Exn Value)) :
    ∃ pre post, records = pre ++ post ∧
      pre.map (fun p => (enrich p.1 p.2).map ResourceClass.computeInstanceGroup.createNew) =
        (loop raises records).1.map .ok ∧
      ((post = [] ∧ (loop raises records).2 = raises) ∨
        ∃ p rest e, post = p :: rest ∧ enrich p.1 p.2 = .error e ∧
          (loop raises records).2 = some e) := by
  induction records with
  | nil => exact ⟨[], [], rfl, rfl, .inl ⟨rfl, rfl⟩⟩
  | cons p records ih =>
    obtain ⟨data, answer⟩ := p
    cases h : enrich data answer with
    | error e =>
      have hstep : loop raises ((data, answer) :: records) = ([], some e) := by simp [loop, h]
      exact ⟨[], _, rfl, by rw [hstep]; rfl, .inr ⟨_, records, e, rfl, h, by rw [hstep]⟩⟩
    | ok data' =>
      obtain ⟨pre, post, hrec, hpre, hpost⟩ := ih
      have hstep : loop raises ((data, answer) :: records) =
          (ResourceClass.computeInstanceGroup.createNew data' :: (loop raises records).1,
            (loop raises records).2) := by simp [loop, h]
      refine ⟨(data, answer) :: pre, post, by rw [hrec, List.cons_append], ?_, by rwa [hstep]⟩
      rw [hstep, List.map_cons, List.map_cons, hpre, h]
      rfl

/-- The enrichment of a record never raises `ResourceNotSupported`: the inner clause catches it. -/
theorem enrich_error_ne {data : Data} {answer : Except Exn Value} {e : Exn}
    (h : enrich data answer = .error e) (msg : String) : e ≠ .resourceNotSupported msg := by
  unfold enrich at h
  split at h
  · cases h
  · cases h
  · cases h
    rename_i hne _
    exact fun he => hne msg he

end ComputeInstanceGroupIterator

open ComputeInstanceGroupIterator in
/-- For every project whose `compute_api_enabled()` holds, and every listing of its instance
groups with any answer of each record's call: without a `projectNumber`, the iterator raises its
`KeyError` and yields nothing. With one, it yields, in listing order, a `compute_instancegroup`
resource for each record before the first one whose enrichment raises, then raises that exception
and yields nothing more; with no such record it yields one resource per record and ends as the
listing ends, a `ResourceNotSupported` of the listing being caught. A record whose arguments
compute gets the answer of its call as `instance_urls`, is kept as it came when the call raises
`ResourceNotSupported`, and raises the `ApiExecutionError` of its call. -/
theorem instance_groups_stop_at_enrichment_error (project : Resource) (a : Attrs)
    (answers : InstanceGroupAnswers) (enabled : Value)
    (henabled : (ResourceManagerProject.computeApiEnabled project a).1 = .ok enabled)
    (htruthy : enabled.truthy = true) :
    (∀ e, project.data.getItem "projectNumber" = .error e → iter project a answers = ([], some e)) ∧
    (∀ n, project.data.getItem "projectNumber" = .ok n →
      ∃ pre post, answers.records = pre ++ post ∧
        pre.map (fun p => (enrich p.1 p.2).map ResourceClass.computeInstanceGroup.createNew) =
          (iter project a answers).1.map .ok ∧
        ((post = [] ∧ (iter project a answers).2 = caught answers.raises) ∨
          ∃ p rest e, post = p :: rest ∧ enrich p.1 p.2 = .error e ∧
            (iter project a answers).2 = some e)) ∧
    ∀ data args, callArgs data = .ok args →
      (∀ instanceUrls, enrich data (.ok instanceUrls) =
        .ok (data.set "instance_urls" instanceUrls)) ∧
      (∀ msg, enrich data (.error (.resourceNotSupported msg)) = .ok data) ∧
      (∀ msg, enrich data (.error (.apiExecutionError msg)) = .error (.apiExecutionError msg)) := by
  refine ⟨fun e hnum => by simp [iter, henabled, htruthy, hnum], fun n hnum => ?_,
    fun data args hargs => ⟨enrich_of_ok hargs, enrich_of_not_supported hargs,
      fun msg => enrich_of_error hargs fun _ => Exn.noConfusion⟩⟩
  have hiter : iter project a answers = ((loop answers.raises answers.records).1,
      caught (loop answers.raises answers.records).2) := by
    simp [iter, henabled, htruthy, hnum]
  obtain ⟨pre, post, hrec, hpre, hpost⟩ := loop_spec answers.raises answers.records
  refine ⟨pre, post, hrec, by rw [hiter, hpre], ?_⟩
  rw [hiter]
  rcases hpost with ⟨rfl, hend⟩ | ⟨p, rest, e, rfl, he, hend⟩
  · exact .inl ⟨rfl, by rw [hend]⟩
  · refine .inr ⟨p, rest, e, rfl, he, ?_⟩
    rw [hend]
    cases e <;> first | rfl | exact absurd rfl (enrich_error_ne he _)

/-- The attributes of a fresh project after a `get_billing_info` whose client was denied: its
billing info is `None`, and so is the set of its services. -/
def deniedBillingAttrs : Attrs :=
  Function.update ResourceManagerProject.initAttrs (cacheAttr "billing_info") (some .null)

/-- Two instance groups of the active project; the call for the instances of the first is
denied. -/
def deniedGroups : InstanceGroupAnswers :=
  ⟨[([("name", .str "ig-1"), ("zone", .str "projects/p1/zones/us-central1-a")],
      .error (.apiExecutionError "403 Forbidden")),
    ([("name", .str "ig-2"), ("zone", .str "projects/p1/zones/us-central1-b")],
      .ok (.list [.str "projects/p1/zones/us-central1-b/instances/vm-1"]))], none⟩

/-- With compute enabled on the active project, the denied call for the first group's instances
ends the iterator: neither group is yielded, and the iterator raises `ApiExecutionError`. -/
theorem instance_groups_stop_at_enrichment_error_denied :
    (ResourceManagerProject.computeApiEnabled activeProject deniedBillingAttrs).1 =
        .ok (.bool true) ∧ (Value.bool true).truthy = true ∧
      ComputeInstanceGroupIterator.iter activeProject deniedBillingAttrs deniedGroups =
        ([], some (.apiExecutionError "403 Forbidden")) ∧
      ∃ pre post, deniedGroups.records = pre ++ post ∧
        pre.map (fun p => (ComputeInstanceGroupIterator.enrich p.1 p.2).map
          ResourceClass.computeInstanceGroup.createNew) =
          (ComputeInstanceGroupIterator.iter activeProject deniedBillingAttrs deniedGroups).1.map
            .ok ∧
        ((post = [] ∧ (ComputeInstanceGroupIterator.iter activeProject deniedBillingAttrs
            deniedGroups).2 = ComputeInstanceGroupIterator.caught deniedGroups.raises) ∨
          ∃ p rest e, post = p :: rest ∧ ComputeInstanceGroupIterator.enrich p.1 p.2 = .error e ∧
            (ComputeInstanceGroupIterator.iter activeProject deniedBillingAttrs deniedGroups).2 =
              some e) :=
  have henabled : (ResourceManagerProject.computeApiEnabled activeProject deniedBillingAttrs).1 =
      .ok (.bool true) := rfl
  ⟨henabled, rfl, rfl, (instance_groups_stop_at_enrichment_error activeProject
    deniedBillingAttrs deniedGroups _ henabled rfl).2.1 _ rfl⟩

end InventoryCrawler
