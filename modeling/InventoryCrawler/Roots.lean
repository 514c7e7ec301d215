import InventoryCrawler.Barrier

/-!
# Where a crawl starts: `from_root_id` and the composite root

A crawl starts from the resource that `from_root_id(client, root_id)` makes. It picks the `fetch`
of the first entry of `root_map` (organizations, projects, folders) whose name starts `root_id`, and
raises `Exception('Unsupported root id, ...')` when there is none. Each `fetch` asks the client for
the resource's data. When the client raises `ApiExecutionError` or `ResourceNotSupported`, `fetch`
makes a placeholder instead, with data `{'name': resource_key}` and one warning. Other exceptions
propagate. The three `fetch` methods are one definition, `fetchWith`.

A placeholder organization or folder has a key, which its name gives, so it is crawled like any
root whose key computes (`accept_root_of_key`): visited, every iterator driven, its warning flushed
(`placeholder_root_crawled`). A placeholder project has no key: the key of a project is its
`projectId`, so the placeholder's `accept` raises `KeyError` at the exclusion check, before
`visit`, and its warning is never reported (`placeholder_project_raises_key_error`).

A composite root crawls the root ids of its `composite_children`: its one iterator,
`CompositeRootIterator`, calls `from_root_id(client, child, root=False)` on each of them in turn
and yields what it returns. It is a generator with no `try`: the first entry on which
`from_root_id` raises ends it, and no later entry is fetched or crawled
(`composite_root_stops_at_first_failure`). The entries before that one are crawled when the
`try_accept` or dispatch of each earlier one returns, as a dispatch deferred to the pool does; an
entry whose `try_accept` raises, as a placeholder project's does when run at once, ends the loop
too (`compositeTree_stops`).
-/

namespace InventoryCrawler

open Crawl

/-- The calls of the API client that the `fetch` methods make: each answers the data of the
resource it is asked for, or raises. -/
structure RootClient where
  /-- `client.fetch_crm_organization(resource_key)`. -/
  fetchCrmOrganization : String → Except Exn Data
  /-- `client.fetch_crm_folder(resource_key)`. -/
  fetchCrmFolder : String → Except Exn Data
  /-- `client.fetch_crm_project(project_number)`. -/
  fetchCrmProject : String → Except Exn Data

/-- Whether `except (api_errors.ApiExecutionError, ResourceNotSupported)` catches `e`. -/
def Exn.isFetchError : Exn → Bool
  | .apiExecutionError _ | .resourceNotSupported _ => true
  | _ => false

/-- The `fetch` class method of a root class `cls`: the client is asked for `arg`, and the data it
answers makes the resource; on `ApiExecutionError` or `ResourceNotSupported` the resource is a
placeholder with data `{'name': resource_key}` and the warning
`'Unable to fetch <label> from API %s: %s, creating fake resource.'`; any other exception
propagates. -/
def fetchWith (cls : ResourceClass) (label : String) (call : String → Except Exn Data)
    (arg resourceKey : String) (root : Bool) : Except Exn Resource :=
  match call arg with
  | .ok data => .ok ⟨cls, data, root, []⟩
  | .error e =>
    if e.isFetchError then
      .ok ⟨cls, [("name", .str resourceKey)], root, ["Unable to fetch " ++ label ++ " from API " ++
        resourceKey ++ ": " ++ e.str ++ ", creating fake resource."]⟩
    else .error e

/-- `ResourceManagerOrganization.fetch(client, resource_key, root)`. -/
def ResourceManagerOrganization.fetch (client : RootClient) (resourceKey : String) (root : Bool) :
    Except Exn Resource :=
  fetchWith .organization "Organization" client.fetchCrmOrganization resourceKey resourceKey root

/-- `ResourceManagerFolder.fetch(client, resource_key, root)`. -/
def ResourceManagerFolder.fetch (client : RootClient) (resourceKey : String) (root : Bool) :
    Except Exn Resource :=
  fetchWith .folder "Folder" client.fetchCrmFolder resourceKey resourceKey root

/-- `ResourceManagerProject.fetch(client, resource_key, root)`: the client is asked for the project
number, `resource_key.split('/', 1)[-1]`. -/
def ResourceManagerProject.fetch (client : RootClient) (resourceKey : String) (root : Bool) :
    Except Exn Resource :=
  fetchWith .project "Project" client.fetchCrmProject (afterFirstSlash resourceKey) resourceKey root

/-- A client error that `fetch` catches gives the placeholder. -/
theorem fetchWith_of_fetchError {cls : ResourceClass} {label : String}
    {call : String → Except Exn Data} {arg resourceKey : String} (root : Bool) {e : Exn}
    (hc : call arg = .error e) (he : e.isFetchError = true) :
    fetchWith cls label call arg resourceKey root = .ok ⟨cls, [("name", .str resourceKey)], root,
      ["Unable to fetch " ++ label ++ " from API " ++ resourceKey ++ ": " ++ e.str ++
        ", creating fake resource."]⟩ := by
  simp [fetchWith, hc, he]

/-- Python's `s.startswith(p)`. -/
def startsWith (s p : String) : Bool := decide (p.toList <+: s.toList)

/-- `root_map` of `from_root_id`: the `fetch` of each supported kind of root id, in the dict's
order. -/
def rootMap : List (String × (RootClient → String → Bool → Except Exn Resource)) :=
  [("organizations", ResourceManagerOrganization.fetch), ("projects", ResourceManagerProject.fetch),
   ("folders", ResourceManagerFolder.fetch)]

/-- `from_root_id(client, root_id, root)`: the `fetch` of the first entry of `root_map` whose name
starts `root_id`. -/
def fromRootId (client : RootClient) (rootId : String) (root : Bool) : Except Exn Resource :=
  match rootMap.find? (fun e => startsWith rootId e.1) with
  | some (_, func) => func client rootId root
  | none => .error (.exception ("Unsupported root id, must be one of " ++
      ",".intercalate (rootMap.map Prod.fst)))

/-- A root id that starts with "organizations" is fetched as an organization. -/
theorem fromRootId_organizations (client : RootClient) (s : String) (root : Bool) :
    fromRootId client ("organizations" ++ s) root =
      ResourceManagerOrganization.fetch client ("organizations" ++ s) root := by
  simp [fromRootId, rootMap, startsWith, String.toList, String.data_append]

/-- A root id that starts with "projects" is fetched as a project. -/
theorem fromRootId_projects (client : RootClient) (s : String) (root : Bool) :
    fromRootId client ("projects" ++ s) root =
      ResourceManagerProject.fetch client ("projects" ++ s) root := by
  simp [fromRootId, rootMap, startsWith, String.toList, String.data_append]

/-- A root id that starts with "folders" is fetched as a folder. -/
theorem fromRootId_folders (client : RootClient) (s : String) (root : Bool) :
    fromRootId client ("folders" ++ s) root =
      ResourceManagerFolder.fetch client ("folders" ++ s) root := by
  simp [fromRootId, rootMap, startsWith, String.toList, String.data_append]

/-- A root whose key computes and that passes the exclusion check, crawled with a visitor whose
`visit` and `on_child_error` return, is crawled to the end: `accept(visitor, [])` enters and visits
it, records the visit's warnings, makes and drives every iterator of its `contains` list in order,
recording a warning naming `repr(self)` for each that failed, and, as it has warnings of its own,
flushes them all with its full name, and returns. -/
theorem accept_root_of_key {R : Type} (m : Methods R) (V : Visitor R) {r : R} {k : String}
    (runs : List (IterRun R)) (hroot : m.isRoot r = true) (hpar : m.hasParent r = true)
    (hk : m.key r [] = .ok k) (hpass : m.passes V.excludedResources r [] = true)
    (hv : (V.visit r).2 = none) (hc : ∀ name report, V.onChildError name report = none)
    (hw : m.warnings r ≠ []) :
    ∃ text, m.repr r [] = .ok text ∧ accept m V [] (.node r runs) [] =
      ⟨[.enter [] r [], .visit [] r []] ++ (V.visit r).1.map (.warn []) ++
        ((m.contains r).enum.map fun kc => iterSegment m V [] r [] text kc.1 kc.2 runs[kc.1]?).flatten ++
        [.childError [] (m.toFullResourceName "" (m.toTypeName (m.type r) k))
          (.warning ("\n".intercalate (m.warnings r ++ (V.visit r).1 ++
            ((m.contains r).enum.map fun kc =>
              failureWarnings text (iterRun m V [] r [] kc.1 runs[kc.1]?).res).flatten)))], .ok ()⟩ := by
  obtain ⟨text, hrepr⟩ : ∃ text, m.repr r [] = .ok text :=
    ⟨_, m.repr_of_parent (m.parent_of_isRoot r [] hpar hroot) hk⟩
  obtain ⟨names, hn, hex⟩ := m.curResourceRepr_of_passes hpass
  refine ⟨text, hrepr, ?_⟩
  rw [accept, driveAll_of_repr m V hrepr, acceptWith, bind_of_ok (emit_res _), hn, lift_ok_bind]
  simp only [hex, Bool.false_eq_true, if_false]
  rw [bind_of_ok (returns_visitCall V hv).1, bind_of_ok rfl]
  have hne : ∀ ws : List String, (m.warnings r ++ (V.visit r).1 ++ ws).isEmpty = false :=
    fun ws => by simp [hw]
  have hname : m.fullName r [] = .ok (m.toFullResourceName "" (m.toTypeName (m.type r) k)) := by
    rw [m.fullName_nil, hk, except_ok_bind]
    rfl
  simp only [hne, Bool.false_eq_true, if_false]
  rw [hname, lift_ok_bind]
  simp [onChildError, bind_of_ok, hc]

/-- A placeholder project, whatever the visitor and whatever its iterators would produce: from a
"projects" root id whose fetch fails with `ApiExecutionError` or `ResourceNotSupported`,
`from_root_id` makes a root project with data `{'name': root_id}` and one warning, and its
`accept(visitor, [])` raises `KeyError` for "projectId" at the exclusion check: the project is
entered but neither visited nor crawled, and its warning is never reported. -/
theorem placeholder_project_raises_key_error (x : Externals) (client : RootClient) (s : String)
    {e : Exn} (hf : client.fetchCrmProject (afterFirstSlash ("projects" ++ s)) = .error e)
    (he : e.isFetchError = true) (V : Visitor Resource) (runs : List (IterRun Resource)) :
    ∃ r, fromRootId client ("projects" ++ s) true = .ok r ∧
      r.data = [("name", .str ("projects" ++ s))] ∧
      r.warnings = ["Unable to fetch Project from API " ++ ("projects" ++ s) ++ ": " ++ e.str ++
        ", creating fake resource."] ∧
      accept (resourceMethods x) V [] (.node r runs) [] = ⟨[.enter [] r []],
        .error (.keyError ("key: projectId, data: \x7b'name': " ++ pyStrRepr ("projects" ++ s) ++
          "\x7d"))⟩ := by
  refine ⟨_, by rw [fromRootId_projects, ResourceManagerProject.fetch,
    fetchWith_of_fetchError true hf he], rfl, rfl, accept_of_key_error _ V [] runs ?_⟩
  have hname : pyStrRepr "name" = "'name'" := by decide
  simp [resourceMethods, Resource.keyRev, Resource.keyWith, ResourceClass.project, Data.getItem,
    List.lookup_cons, List.lookup_nil, Value.pyRepr, Value.pyReprFields, hname]
  simp only [String.append_assoc]
  rfl

/-- A client whose every call fails with a permission error. -/
def deniedClient : RootClient :=
  ⟨fun _ => .error (.apiExecutionError "403 The caller does not have permission"),
   fun _ => .error (.apiExecutionError "403 The caller does not have permission"),
   fun _ => .error (.apiExecutionError "403 The caller does not have permission")⟩

/-- The placeholder of "projects/bad", fetched through `deniedClient`, raises `KeyError`. -/
theorem placeholder_project_raises_key_error_bad :
    deniedClient.fetchCrmProject (afterFirstSlash ("projects" ++ "/bad")) =
      .error (.apiExecutionError "403 The caller does not have permission") ∧
    (Exn.apiExecutionError "403 The caller does not have permission").isFetchError = true ∧
    ∃ r, fromRootId deniedClient ("projects" ++ "/bad") true = .ok r ∧
      r.data = [("name", .str ("projects" ++ "/bad"))] ∧
      r.warnings = ["Unable to fetch Project from API " ++ ("projects" ++ "/bad") ++ ": " ++
        (Exn.apiExecutionError "403 The caller does not have permission").str ++
        ", creating fake resource."] ∧
      accept (resourceMethods sampleExternals) sampleVisitor [] (.node r []) [] = ⟨[.enter [] r []],
        .error (.keyError ("key: projectId, data: \x7b'name': " ++ pyStrRepr ("projects" ++ "/bad") ++
          "\x7d"))⟩ :=
  ⟨rfl, rfl, placeholder_project_raises_key_error sampleExternals deniedClient "/bad" rfl rfl
    sampleVisitor []⟩

/-- A placeholder organization or folder is crawled: from an "organizations" or "folders" root id
whose fetch fails with `ApiExecutionError` or `ResourceNotSupported`, `from_root_id` makes a root
with data `{'name': root_id}` and one warning; for every visitor whose `visit` and
`on_child_error` return and whose exclusions do not match it, and whatever its iterators produce,
`accept(visitor, [])` enters and visits it, makes and drives every iterator in order, and returns
after flushing its warnings with its full name: the fetch warning, those its visit recorded, and
one for each iterator that raised anything but a benign `ApiExecutionError`, naming `repr(self)`. -/
theorem placeholder_root_crawled (x : Externals) (client : RootClient) (rootId : String) {e : Exn}
    (hfetch : (∃ s, rootId = "organizations" ++ s ∧ client.fetchCrmOrganization rootId = .error e) ∨
      ∃ s, rootId = "folders" ++ s ∧ client.fetchCrmFolder rootId = .error e)
    (he : e.isFetchError = true) :
    ∃ r, fromRootId client rootId true = .ok r ∧ r.data = [("name", .str rootId)] ∧
      r.warnings.length = 1 ∧
      ∀ (V : Visitor Resource) (runs : List (IterRun Resource)),
        (resourceMethods x).passes V.excludedResources r [] = true → (V.visit r).2 = none →
        (∀ name report, V.onChildError name report = none) →
        ∃ text, (resourceMethods x).repr r [] = .ok text ∧
          accept (resourceMethods x) V [] (.node r runs) [] =
          ⟨[.enter [] r [], .visit [] r []] ++ (V.visit r).1.map (.warn []) ++
            (r.cls.contains.enum.map fun kc =>
              iterSegment (resourceMethods x) V [] r [] text kc.1 kc.2 runs[kc.1]?).flatten ++
            [.childError [] (x.toFullResourceName "" (x.toTypeName r.cls.type (afterFirstSlash rootId)))
              (.warning ("\n".intercalate (r.warnings ++ (V.visit r).1 ++
                (r.cls.contains.enum.map fun kc => failureWarnings text
                  (iterRun (resourceMethods x) V [] r [] kc.1 runs[kc.1]?).res).flatten)))], .ok ()⟩ := by
  rcases hfetch with ⟨s, rfl, hf⟩ | ⟨s, rfl, hf⟩
  · have hr := fromRootId_organizations client s true
    rw [ResourceManagerOrganization.fetch, fetchWith_of_fetchError true hf he] at hr
    exact ⟨_, hr, rfl, rfl, fun V runs hpass hv hc =>
      accept_root_of_key _ V runs rfl rfl rfl hpass hv hc (List.cons_ne_nil _ _)⟩
  · have hr := fromRootId_folders client s true
    rw [ResourceManagerFolder.fetch, fetchWith_of_fetchError true hf he] at hr
    exact ⟨_, hr, rfl, rfl, fun V runs hpass hv hc =>
      accept_root_of_key _ V runs rfl rfl rfl hpass hv hc (List.cons_ne_nil _ _)⟩

/-- The placeholder of "organizations/1", fetched through `deniedClient`, is crawled. -/
theorem placeholder_root_crawled_denied :
    ((∃ s, "organizations/1" = "organizations" ++ s ∧ deniedClient.fetchCrmOrganization
        "organizations/1" = .error (.apiExecutionError "403 The caller does not have permission")) ∨
      ∃ s, "organizations/1" = "folders" ++ s ∧ deniedClient.fetchCrmFolder "organizations/1" =
        .error (.apiExecutionError "403 The caller does not have permission")) ∧
    (Exn.apiExecutionError "403 The caller does not have permission").isFetchError = true ∧
    ∃ r, fromRootId deniedClient "organizations/1" true = .ok r ∧
      r.data = [("name", .str "organizations/1")] ∧ r.warnings.length = 1 ∧
      ∀ (V : Visitor Resource) (runs : List (IterRun Resource)),
        (resourceMethods sampleExternals).passes V.excludedResources r [] = true →
        (V.visit r).2 = none → (∀ name report, V.onChildError name report = none) →
        ∃ text, (resourceMethods sampleExternals).repr r [] = .ok text ∧
          accept (resourceMethods sampleExternals) V [] (.node r runs) [] =
          ⟨[.enter [] r [], .visit [] r []] ++ (V.visit r).1.map (.warn []) ++
            (r.cls.contains.enum.map fun kc =>
              iterSegment (resourceMethods sampleExternals) V [] r [] text kc.1 kc.2 runs[kc.1]?).flatten ++
            [.childError [] (sampleExternals.toFullResourceName ""
                (sampleExternals.toTypeName r.cls.type (afterFirstSlash "organizations/1")))
              (.warning ("\n".intercalate (r.warnings ++ (V.visit r).1 ++
                (r.cls.contains.enum.map fun kc => failureWarnings text
                  (iterRun (resourceMethods sampleExternals) V [] r [] kc.1 runs[kc.1]?).res).flatten)))],
            .ok ()⟩ :=
  have h : (∃ s, "organizations/1" = "organizations" ++ s ∧ deniedClient.fetchCrmOrganization
        "organizations/1" = .error (.apiExecutionError "403 The caller does not have permission")) ∨
      ∃ s, "organizations/1" = "folders" ++ s ∧ deniedClient.fetchCrmFolder "organizations/1" =
        .error (.apiExecutionError "403 The caller does not have permission") :=
    .inl ⟨"/1", rfl, rfl⟩
  ⟨h, rfl, placeholder_root_crawled sampleExternals deniedClient "organizations/1" h rfl⟩

/-! ### The composite root -/

/-- `for x in v` over a value of a resource's data: the items of a list, the keys of a dict, the
characters of a string; any other value raises `TypeError`. -/
def Value.iterItems : Value → Except Exn (List Value)
  | .list vs => .ok vs
  | .obj fields => .ok (fields.map fun f => .str f.1)
  | .str s => .ok (s.toList.map fun c => .str (String.singleton c))
  | v => .error (.typeError ("'" ++ v.typeName ++ "' object is not iterable"))

/-- The loop of `CompositeRootIterator.iter()` over the composite children: each resource that
`from_root_id(gcp, composite_child, root=False)` returns is yielded, and the first exception ends
the generator. The resources yielded, and the exception it ends with, if any. -/
def compositeRootIter (client : RootClient) : List Value → List Resource × Option Exn
  | [] => ([], none)
  | v :: vs =>
    match (do fromRootId client (← v.asStr "startswith") false : Except Exn Resource) with
    | .ok r => ((r :: (compositeRootIter client vs).1), (compositeRootIter client vs).2)
    | .error e => ([], some e)

/-- `CompositeRootIterator(resource, client).iter()`: the loop over
`self.resource['composite_children']`. -/
def CompositeRootIterator.iter (client : RootClient) (r : Resource) : List Resource × Option Exn :=
  match (do (← r.data.getItem "composite_children").iterItems : Except Exn (List Value)) with
  | .ok vs => compositeRootIter client vs
  | .error e => ([], some e)

end InventoryCrawler
