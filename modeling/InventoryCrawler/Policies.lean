import InventoryCrawler.Provenance

/-!
# Whom the IAM policy warnings call the project

Six classes below a project override `get_iam_policy` with one client call and, when the call
raises `ApiExecutionError` or `ResourceNotSupported`, add the warning
`'Could not get ... IAM Policy for %s in project %s: %s' % (label, self.parent().key(), e)`
(`parentKeyGetter` of `Getters.lean`); a bucket's `get_gcs_policy` and a Dataproc cluster's
`get_iam_policy` name the project the same way.

What the warnings call the project is the key of the resource right above on the stack. In a
crawl, that resource is the project, and its key its `projectId`, for every class but one: a
crypto key is entered right below its key ring, so its warning names `size_t_hash` of the key
ring's name (`policy_warnings_name_the_resource_above`).
-/

namespace InventoryCrawler

/-! ### Whom the warnings call the project, in a crawl -/

/-- The classes whose getter's warning names the resource above as the project, and whose
iterators all belong to a project. -/
def projectScopedClassNames : List String :=
  ["IamServiceAccount", "KmsKeyRing", "PubsubSubscription", "PubsubTopic", "StorageBucket",
    "DataprocCluster"]

set_option maxRecDepth 2000 in
/-- The project-scoped classes are yielded only by iterators of a project. -/
theorem projectScoped_below_projects :
    YieldedOnly projectScopedClassNames
      ["IamServiceAccountIterator", "KmsKeyRingIterator", "PubsubSubscriptionIterator",
        "PubsubTopicIterator", "StorageBucketIterator", "DataprocClusterIterator"]
      "ResourceManagerProject" := by
  decide

set_option maxRecDepth 2000 in
/-- A crypto key is yielded only by the crypto key iterator of a key ring. -/
theorem cryptoKeys_below_keyRings :
    YieldedOnly ["KmsCryptoKey"] ["KmsCryptoKeyIterator"] "KmsKeyRing" := by
  decide

set_option maxRecDepth 2000 in
/-- Every class an iterator yields has `parent()`, but for curated roles. -/
theorem hasParent_of_yielded :
    ∀ c ∈ yieldedClasses, c.hasParent = false → c.className = "IamCuratedRole" := by
  decide

set_option maxRecDepth 2000 in
/-- A project is keyed by its `projectId`, a key ring by a hash of its name. -/
theorem keyRules_of_parents :
    ∀ c ∈ crawlClasses, (c.className = "ResourceManagerProject" → c.keyRule = .field "projectId") ∧
      (c.className = "KmsKeyRing" → c.keyRule = .hashField "name") := by
  decide

/-- A key by the rule `field f` reads `self[f]`, whatever the stack. -/
theorem key_of_field {x : Externals} {q : Resource} {f : String} (h : q.cls.keyRule = .field f)
    (stack : List Resource) :
    (resourceMethods x).key q stack = (do pure (← q.data.getItem f).pyStr) := by
  show q.keyRev x stack.reverse = _
  cases stack.reverse <;> simp [Resource.keyRev, Resource.keyWith, h]

/-- A key by the rule `hashField f` is `size_t_hash(self[f])`, whatever the stack. -/
theorem key_of_hashField {x : Externals} {q : Resource} {f : String}
    (h : q.cls.keyRule = .hashField f) (stack : List Resource) :
    (resourceMethods x).key q stack =
      (do pure (x.sizeTHash (← (← q.data.getItem f).asStr "encode"))) := by
  show q.keyRev x stack.reverse = _
  cases stack.reverse <;> simp [Resource.keyRev, Resource.keyWith, h]

/-- What an iterator of `q` yields has `q` above it: `self.parent().key()` is `q`'s key. -/
theorem YieldedBy.parentKey_eq {x : Externals} {cv : Converters} {client : Client}
    {pre : List Resource} {q r : Resource} (hy : YieldedBy x cv client pre q r)
    (hc : r.cls.className ≠ "IamCuratedRole") :
    parentKey x r (pre ++ [q]) = (resourceMethods x).key q pre := by
  have hp : r.cls.hasParent = true := by
    by_contra hp
    exact hc (hasParent_of_yielded _ hy.yielded.2 (by simpa using hp))
  simp [parentKey, (resourceMethods x).parent_append r q pre hp hy.yielded.1]

/-- For every client, every tree the iterators generate from it whose top is of a class a crawl
starts from, and every reachable state of its crawl: a service account, key ring, Pub/Sub
subscription or topic, bucket or Dataproc cluster that has been entered sits right below a
project, and `self.parent().key()`, which its getters' warnings name as the project, is that
project's `projectId`; but a crypto key sits right below a key ring, and the project its warning
names is the key ring's key, `size_t_hash` of the key ring's name. -/
theorem policy_warnings_name_the_resource_above (x : Externals) (cv : Converters)
    (client : Client) (V : Visitor Resource) (t : Served Resource)
    (hgen : Generated x cv client [] t)
    (htop : t.res.cls ∈ rootClasses) (s : Pool Resource)
    (hs : Reachable (resourceMethods x) V t s) :
    ∀ p r stack, .enter p r stack ∈ s.log →
      (r.cls.className ∈ projectScopedClassNames →
        ∃ pre q, stack = pre ++ [q] ∧ q.cls.className = "ResourceManagerProject" ∧
          parentKey x r stack = do pure (← q.data.getItem "projectId").pyStr) ∧
      (r.cls.className = "KmsCryptoKey" →
        ∃ pre q, stack = pre ++ [q] ∧ q.cls.className = "KmsKeyRing" ∧
          parentKey x r stack =
            do pure (x.sizeTHash (← (← q.data.getItem "name").asStr "encode"))) := by
  intro p r stack he
  have hch := hgen.chain htop (enter_stack _ V hs he).1
  refine ⟨fun hr => ?_, fun hr => ?_⟩
  · obtain ⟨pre, q, rfl, hq, hy, hchq⟩ :=
      hch.climb projectScoped_below_projects hr (by decide)
    have hkey := ((keyRules_of_parents q.cls (hchq.mem_crawlClasses q (by simp))).1 hq)
    refine ⟨pre, q, rfl, hq, ?_⟩
    rw [hy.parentKey_eq (fun h => by simp [h, projectScopedClassNames] at hr),
      key_of_field hkey]
  · obtain ⟨pre, q, rfl, hq, hy, hchq⟩ :=
      hch.climb cryptoKeys_below_keyRings (List.mem_singleton.2 hr) (by decide)
    have hkey := ((keyRules_of_parents q.cls (hchq.mem_crawlClasses q (by simp))).2 hq)
    refine ⟨pre, q, rfl, hq, ?_⟩
    rw [hy.parentKey_eq (fun h => by simp [h] at hr), key_of_hashField hkey]

/-- A finished schedule of the sample crawl has entered the service account, and the statement
holds of that entry. -/
theorem policy_warnings_name_the_resource_above_sample :
    ∃ s, Reachable (resourceMethods sampleExternals) sampleVisitor sampleCrawlTree s ∧
      s.Done ∧
      .enter [(8, 0), (42, 0)] sampleServiceAccount [directoryOrg, activeProject] ∈ s.log ∧
      (sampleServiceAccount.cls.className ∈ projectScopedClassNames →
        ∃ pre q, [directoryOrg, activeProject] = pre ++ [q] ∧
          q.cls.className = "ResourceManagerProject" ∧
          parentKey sampleExternals sampleServiceAccount [directoryOrg, activeProject] =
            do pure (← q.data.getItem "projectId").pyStr) ∧
      (sampleServiceAccount.cls.className = "KmsCryptoKey" →
        ∃ pre q, [directoryOrg, activeProject] = pre ++ [q] ∧ q.cls.className = "KmsKeyRing" ∧
          parentKey sampleExternals sampleServiceAccount [directoryOrg, activeProject] =
            do pure (sampleExternals.sizeTHash (← (← q.data.getItem "name").asStr "encode"))) := by
  obtain ⟨s, hs, hd⟩ :=
    exists_done (start (resourceMethods sampleExternals) sampleVisitor sampleCrawlTree)
  have he := (sampleCrawl_enters hs hd).2.2.2.2.2.1
  exact ⟨s, hs, hd, he, policy_warnings_name_the_resource_above _ _ _ _ _
    sampleCrawlTree_generated sampleCrawlTree_top s hs _ _ _ he⟩

end InventoryCrawler
