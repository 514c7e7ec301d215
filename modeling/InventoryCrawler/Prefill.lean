import InventoryCrawler.Cache

/-!
# What a dataset's two getters return

`BigqueryDataSet.get_iam_policy` and `get_dataset_policy` are cached under `iam_policy` and
`dataset_policy`, and each, when its client answers, prefills the other's cache through
`_set_cache`, which writes an attribute that is unset or `None`. A call of a getter that returns
a value leaves it in its cache (`cached_stores_result`), and a getter whose cache is set returns
the stored value (`cached_of_some`). So what a getter returns is what its cache holds.

A cache that holds a value other than `None` keeps it over any calls of the two getters
(`dataset_cache_kept_run`): its own getter does not run, and the other one's `_set_cache` does not
overwrite it. A cache that holds `None`, from a call whose client raised `ApiExecutionError` or
`ResourceNotSupported`, is kept too, until a call of the other getter has a response; that call
overwrites the `None`. So once a getter has returned a value other than `None`, every later call
of it returns that value, and a getter that returned `None` returns something else later only
after such a call of the other one (`dataset_getter_keeps_value`); after such a call it returns
the conversion of the other one's response (`dataset_prefill_replaces_none`), as it does in
`failed_iam_policy_replaced_by_prefill`. `dataset_getter_keeps_or_prefills` states the three
together.
-/

namespace InventoryCrawler

section Cached

variable {fieldName : String} {f : Getter} {a : Attrs} {answer : Except Exn Value}

/-- A call whose cache is set returns the stored value and changes nothing. -/
theorem cached_of_some {v : Value} (h : a (cacheAttr fieldName) = some v) :
    cached fieldName f a answer = ⟨false, .ok v, a, []⟩ := by
  simp [cached, h]

/-- A call that returns a value leaves it in its cache. -/
theorem cached_stores_result {v : Value} (h : (cached fieldName f a answer).res = .ok v) :
    (cached fieldName f a answer).attrs (cacheAttr fieldName) = some v := by
  cases ha : a (cacheAttr fieldName) with
  | some w =>
    rw [cached_of_some ha] at h ⊢
    cases h
    exact ha
  | none =>
    rcases hf : f a answer with ⟨called, e | w, a', ws⟩
    · simp [cached, ha, hf] at h
    · simp_all [cached]

/-- On an unset cache, the attributes other than the cache are the body's. -/
theorem cached_attrs_of_ne (h : a (cacheAttr fieldName) = none) {k : String}
    (hk : k ≠ cacheAttr fieldName) : (cached fieldName f a answer).attrs k = (f a answer).attrs k := by
  rcases hf : f a answer with ⟨called, e | w, a', ws⟩ <;> simp [cached, h, hf, hk]

end Cached

/-- `_set_cache` leaves an attribute that holds something other than `None`. -/
theorem setCache_of_ne_null {fieldName : String} {value w : Value} {a : Attrs}
    (h : a (cacheAttr fieldName) = some w) (hw : w ≠ .null) : setCache fieldName value a = a := by
  unfold setCache
  rw [h]
  cases w <;> simp_all

/-- A client-shaped body that had no response from its client writes nothing. -/
theorem clientBody_attrs_of_no_response {α : Type} {args : Except Exn α}
    {message : Exn → Except Exn String} {post : α → Value → Attrs → Value × Attrs} {a : Attrs}
    {answer : Except Exn Value}
    (h : ¬((clientBody args message post a answer).called = true ∧ answer.isOk = true)) :
    (clientBody args message post a answer).attrs = a := by
  unfold clientBody at h ⊢
  split
  · rfl
  · split
    · simp_all [Except.isOk, Except.toBool]
    · split
      · split <;> rfl
      · rfl

/-- A cached getter that prefills `other` from its response keeps what `other` holds, unless
it holds `None` and the call had a response. -/
theorem prefill_keeps_other {α : Type} {own other : String} {args : Except Exn α}
    {message : Exn → Except Exn String} {conv : α → Value → Value} {a : Attrs}
    {answer : Except Exn Value} {w : Value} (hne : cacheAttr other ≠ cacheAttr own)
    (ho : a (cacheAttr other) = some w)
    (hkeep : w ≠ .null ∨ ¬((cached own (clientBody args message
      fun v d a => (d, setCache other (conv v d) a)) a answer).called = true ∧
        answer.isOk = true)) :
    (cached own (clientBody args message fun v d a => (d, setCache other (conv v d) a))
      a answer).attrs (cacheAttr other) = some w := by
  cases hown : a (cacheAttr own) with
  | some u => rwa [cached_of_some hown]
  | none =>
    rw [cached_attrs_of_ne hown hne]
    rw [cached_called_of_none hown] at hkeep
    by_cases hresp : (clientBody args message (fun v d a => (d, setCache other (conv v d) a)) a
        answer).called = true ∧ answer.isOk = true
    · obtain ⟨hcalled, hok⟩ := hresp
      obtain ⟨data, rfl⟩ := exists_ok_of_isOk hok
      obtain ⟨v, hv⟩ := clientBody_of_called hcalled
      have hw : w ≠ .null := hkeep.resolve_right (not_not.mpr ⟨hcalled, hok⟩)
      rwa [hv, setCache_of_ne_null ho hw]
    · rwa [clientBody_attrs_of_no_response hresp]

/-- Two lists of calls leave what the second leaves after the first. -/
theorem attrsAfter_append (g : String → Getter) (a : Attrs) (pre post : List Call) :
    attrsAfter g a (pre ++ post) = attrsAfter g (attrsAfter g a pre) post := by
  induction pre generalizing a with
  | nil => rfl
  | cons c cs ih => exact ih _

/-- Getters that remove no attribute leave a set attribute set over any calls. -/
theorem isSome_attrsAfter {g : String → Getter} (hkeep : ∀ method, KeepsAttrs (g method))
    {k : String} : ∀ {a : Attrs} (calls : List Call), (a k).isSome → (attrsAfter g a calls k).isSome
  | _, [], ha => ha
  | a, c :: cs, ha => isSome_attrsAfter hkeep cs (hkeep c.method a c.answer k ha)

/-- A cached getter whose client answers, on an unset cache, prefills `other` over a `None` with
the conversion of the response. -/
theorem cached_prefill_of_null {α : Type} {own other : String} {args : Except Exn α}
    {message : Exn → Except Exn String} {conv : α → Value → Value} {a : Attrs} {data : Value}
    {v : α} (hargs : args = .ok v) (hown : a (cacheAttr own) = none)
    (hne : cacheAttr other ≠ cacheAttr own) (hother : a (cacheAttr other) = some .null) :
    (cached own (clientBody args message fun v d a => (d, setCache other (conv v d) a))
      a (.ok data)).attrs (cacheAttr other) = some (conv v data) := by
  subst hargs
  rw [cached_of_ok hown rfl]
  simp [Function.update_noteq hne, setCache, hother]

section Dataset

variable (x : Externals) (cv : Converters) {r : Resource} (stack : List Resource)

/-- A dataset's getter whose cache is set returns what it holds. -/
theorem dataset_returns_cache (hr : r.cls.className = "BigqueryDataSet")
    {method field : String}
    (hpair : method = "get_iam_policy" ∧ field = "iam_policy" ∨
      method = "get_dataset_policy" ∧ field = "dataset_policy")
    {a : Attrs} {v : Value} (ha : a (cacheAttr field) = some v) (answer : Except Exn Value) :
    (getters x cv r stack method a answer).res = .ok v := by
  obtain ⟨giam, gds⟩ := getters_dataset x cv stack hr
  rcases hpair with ⟨rfl, rfl⟩ | ⟨rfl, rfl⟩
  · rw [giam, cached_of_some ha]
  · rw [gds, cached_of_some ha]

/-- A dataset's getter that returns a value leaves it in its cache. -/
theorem dataset_stores_result (hr : r.cls.className = "BigqueryDataSet")
    {method field : String}
    (hpair : method = "get_iam_policy" ∧ field = "iam_policy" ∨
      method = "get_dataset_policy" ∧ field = "dataset_policy")
    {a : Attrs} {answer : Except Exn Value} {v : Value}
    (h : (getters x cv r stack method a answer).res = .ok v) :
    (getters x cv r stack method a answer).attrs (cacheAttr field) = some v := by
  obtain ⟨giam, gds⟩ := getters_dataset x cv stack hr
  rcases hpair with ⟨rfl, rfl⟩ | ⟨rfl, rfl⟩
  · rw [giam] at h ⊢; exact cached_stores_result h
  · rw [gds] at h ⊢; exact cached_stores_result h

/-- One call of either getter of a dataset keeps what the cache of `method` holds, unless it
holds `None` and the call is one of the other getter that had a response. -/
theorem dataset_cache_kept (hr : r.cls.className = "BigqueryDataSet") {method field : String}
    (hpair : method = "get_iam_policy" ∧ field = "iam_policy" ∨
      method = "get_dataset_policy" ∧ field = "dataset_policy")
    {a : Attrs} {c : Call} (hc : c.method = "get_iam_policy" ∨ c.method = "get_dataset_policy")
    {v : Value} (ha : a (cacheAttr field) = some v)
    (hkeep : v ≠ .null ∨ ¬(c.method ≠ method ∧
      (getters x cv r stack c.method a c.answer).called = true ∧ c.answer.isOk = true)) :
    (getters x cv r stack c.method a c.answer).attrs (cacheAttr field) = some v := by
  obtain ⟨giam, gds⟩ := getters_dataset x cv stack hr
  rcases hpair with ⟨rfl, rfl⟩ | ⟨rfl, rfl⟩ <;> rcases hc with hm | hm <;> rw [hm] at hkeep ⊢
  · rwa [giam, cached_of_some ha]
  · rw [gds] at hkeep ⊢
    exact prefill_keeps_other (by decide) ha
      (hkeep.imp_right fun h hresp => h ⟨by decide, hresp⟩)
  · rw [giam] at hkeep ⊢
    exact prefill_keeps_other (by decide) ha
      (hkeep.imp_right fun h hresp => h ⟨by decide, hresp⟩)
  · rwa [gds, cached_of_some ha]

/-- Over any calls of the two getters of a dataset, the cache of `method` keeps what it holds,
unless it holds `None` and one of the calls is one of the other getter that had a response. -/
theorem dataset_cache_kept_run (hr : r.cls.className = "BigqueryDataSet") {method field : String}
    (hpair : method = "get_iam_policy" ∧ field = "iam_policy" ∨
      method = "get_dataset_policy" ∧ field = "dataset_policy") :
    ∀ (mid : List Call) {a : Attrs} {v : Value},
      (∀ d ∈ mid, d.method = "get_iam_policy" ∨ d.method = "get_dataset_policy") →
      a (cacheAttr field) = some v →
      (v ≠ .null ∨ ∀ mid₁ d mid₂, mid = mid₁ ++ d :: mid₂ → d.method ≠ method →
        ¬((getters x cv r stack d.method (attrsAfter (getters x cv r stack) a mid₁)
          d.answer).called = true ∧ d.answer.isOk = true)) →
      attrsAfter (getters x cv r stack) a mid (cacheAttr field) = some v
  | [], _, _, _, ha, _ => ha
  | d :: mid, _, _, hall, ha, hkeep =>
    dataset_cache_kept_run hr hpair mid (fun e he => hall e (List.mem_cons_of_mem _ he))
      (dataset_cache_kept x cv stack hr hpair (hall d (List.mem_cons_self _ _)) ha
        (hkeep.imp_right fun h ⟨hne, hresp⟩ => h [] d mid rfl hne hresp))
      (hkeep.imp_right fun h mid₁ e mid₂ heq hne => h (d :: mid₁) e mid₂ (by rw [heq]; rfl) hne)

/-- For every dataset, every sequence of calls of its two getters from any attributes, and any
answers of the clients: when a call of a getter returned a value other than `None`, every later
call of that getter returns the same value; and when a call returned `None` and a later call of
the same getter returned something else, a call of the other getter in between invoked its client
and had a response. -/
theorem dataset_getter_keeps_value (hr : r.cls.className = "BigqueryDataSet") (a : Attrs)
    (calls : List Call)
    (hcalls : ∀ c ∈ calls, c.method = "get_iam_policy" ∨ c.method = "get_dataset_policy")
    (pre mid post : List Call) (c c' : Call) (hsplit : calls = pre ++ c :: mid ++ c' :: post)
    (hm : c'.method = c.method) :
    (∀ v, (getters x cv r stack c.method (attrsAfter (getters x cv r stack) a pre) c.answer).res =
        .ok v → v ≠ .null →
      (getters x cv r stack c'.method (attrsAfter (getters x cv r stack) a (pre ++ c :: mid))
        c'.answer).res = .ok v) ∧
    ((getters x cv r stack c.method (attrsAfter (getters x cv r stack) a pre) c.answer).res =
        .ok .null → ∀ w,
      (getters x cv r stack c'.method (attrsAfter (getters x cv r stack) a (pre ++ c :: mid))
        c'.answer).res = .ok w → w ≠ .null →
      ∃ mid₁ d mid₂, mid = mid₁ ++ d :: mid₂ ∧ d.method ≠ c.method ∧
        (getters x cv r stack d.method (attrsAfter (getters x cv r stack) a (pre ++ c :: mid₁))
          d.answer).called = true ∧ d.answer.isOk = true) := by
  subst hsplit
  have hc := hcalls c (by simp)
  have hmid : ∀ d ∈ mid, d.method = "get_iam_policy" ∨ d.method = "get_dataset_policy" :=
    fun d hd => hcalls d (by simp [hd])
  obtain ⟨field, hpair⟩ : ∃ field, c.method = "get_iam_policy" ∧ field = "iam_policy" ∨
      c.method = "get_dataset_policy" ∧ field = "dataset_policy" := by
    rcases hc with hc | hc
    · exact ⟨_, .inl ⟨hc, rfl⟩⟩
    · exact ⟨_, .inr ⟨hc, rfl⟩⟩
  simp only [attrsAfter_append, attrsAfter, hm]
  refine ⟨fun v hv hnull => ?_, fun hv w hw hnull => ?_⟩
  · exact dataset_returns_cache x cv stack hr hpair (dataset_cache_kept_run x cv stack hr hpair
      mid hmid (dataset_stores_result x cv stack hr hpair hv) (.inl hnull)) _
  · by_contra hno
    have hkept := dataset_cache_kept_run x cv stack hr hpair mid hmid
      (dataset_stores_result x cv stack hr hpair hv) (.inr fun mid₁ d mid₂ heq hne hresp =>
        hno ⟨mid₁, d, mid₂, heq, hne, by simpa [attrsAfter_append, attrsAfter] using hresp⟩)
    rw [dataset_returns_cache x cv stack hr hpair hkept] at hw
    exact hnull (Except.ok.inj hw).symm

/-- A call of the other getter of a dataset that invokes its client and has a response, on
attributes in which the cache of `method` holds `None`, prefills that cache with the conversion of
the response, computed from the call's arguments. -/
theorem dataset_prefill_step (hr : r.cls.className = "BigqueryDataSet") {method field : String}
    (hpair : method = "get_iam_policy" ∧ field = "iam_policy" ∨
      method = "get_dataset_policy" ∧ field = "dataset_policy")
    {a : Attrs} {d : Call} (hd : d.method = "get_iam_policy" ∨ d.method = "get_dataset_policy")
    (hne : d.method ≠ method) (hnull : a (cacheAttr field) = some .null)
    (hcalled : (getters x cv r stack d.method a d.answer).called = true) {data : Value}
    (hans : d.answer = .ok data) :
    ∃ projectId projectNumber datasetId,
      BigqueryDataSet.callArgs x r stack = .ok (projectId, projectNumber, datasetId) ∧
      (getters x cv r stack d.method a d.answer).attrs (cacheAttr field) =
        some (if method = "get_iam_policy" then cv.convertBigqueryPolicyToIam data projectId
          else cv.convertIamToBigqueryPolicy data) := by
  obtain ⟨giam, gds⟩ := getters_dataset x cv stack hr
  rw [hans] at hcalled ⊢
  rcases hpair with ⟨rfl, rfl⟩ | ⟨rfl, rfl⟩ <;> rcases hd with hd | hd <;> rw [hd] at hcalled ⊢ <;>
    simp only [ne_eq, not_true_eq_false, hd] at hne
  · rw [gds] at hcalled ⊢
    have hnone := cache_none_of_called hcalled
    rw [cached_called_of_none hnone] at hcalled
    cases hargs : BigqueryDataSet.callArgs x r stack with
    | error e => simp [BigqueryDataSet.getDatasetPolicy, clientBody, hargs] at hcalled
    | ok ids => exact ⟨ids.1, ids.2.1, ids.2.2, rfl,
        cached_prefill_of_null hargs hnone (by decide) hnull⟩
  · rw [giam] at hcalled ⊢
    have hnone := cache_none_of_called hcalled
    rw [cached_called_of_none hnone] at hcalled
    cases hargs : BigqueryDataSet.callArgs x r stack with
    | error e => simp [BigqueryDataSet.getIamPolicy, clientBody, hargs] at hcalled
    | ok ids => exact ⟨ids.1, ids.2.1, ids.2.2, rfl,
        cached_prefill_of_null hargs hnone (by decide) hnull⟩

/-- Once both caches of a dataset are set, neither of its getters invokes its client. -/
theorem dataset_not_called_of_set (hr : r.cls.className = "BigqueryDataSet") {a : Attrs}
    (hset : (a (cacheAttr "iam_policy")).isSome ∧ (a (cacheAttr "dataset_policy")).isSome)
    {method : String} (hm : method = "get_iam_policy" ∨ method = "get_dataset_policy")
    (answer : Except Exn Value) : (getters x cv r stack method a answer).called = false := by
  obtain ⟨giam, gds⟩ := getters_dataset x cv stack hr
  rcases hm with rfl | rfl
  · rw [giam]; exact cached_called_of_isSome hset.1
  · rw [gds]; exact cached_called_of_isSome hset.2

/-- For every dataset, every sequence of calls of its two getters from any attributes, and any
answers of the clients: when a call of a getter returned `None`, and a later call of the other
getter invoked its client and had a response, every call of the first getter after that returns
the conversion of that response, which `_set_cache` put over the `None`: for `get_iam_policy`,
`convert_bigquery_policy_to_iam(dataset_policy, project_id)`, and for `get_dataset_policy`,
`convert_iam_to_bigquery_policy(iam_policy)`. -/
theorem dataset_prefill_replaces_none (hr : r.cls.className = "BigqueryDataSet") (a : Attrs)
    (calls : List Call)
    (hcalls : ∀ c ∈ calls, c.method = "get_iam_policy" ∨ c.method = "get_dataset_policy")
    (pre mid mid' post : List Call) (c d c' : Call)
    (hsplit : calls = pre ++ c :: mid ++ d :: mid' ++ c' :: post) (hm : c'.method = c.method)
    (hd : d.method ≠ c.method)
    (hnull : (getters x cv r stack c.method (attrsAfter (getters x cv r stack) a pre) c.answer).res =
      .ok .null)
    (hcalled : (getters x cv r stack d.method (attrsAfter (getters x cv r stack) a (pre ++ c :: mid))
      d.answer).called = true)
    {data : Value} (hans : d.answer = .ok data) :
    ∃ projectId projectNumber datasetId,
      BigqueryDataSet.callArgs x r stack = .ok (projectId, projectNumber, datasetId) ∧
      (getters x cv r stack c'.method
          (attrsAfter (getters x cv r stack) a (pre ++ c :: mid ++ d :: mid')) c'.answer).res =
        .ok (if c.method = "get_iam_policy" then cv.convertBigqueryPolicyToIam data projectId
          else cv.convertIamToBigqueryPolicy data) := by
  subst hsplit
  have hkeep := keepsAttrs_getters x cv r stack
  have hmem : ∀ e ∈ mid ++ d :: mid', e.method = "get_iam_policy" ∨
      e.method = "get_dataset_policy" := fun e he => hcalls e (by
    simp only [List.append_assoc, List.cons_append, List.mem_append, List.mem_cons] at he ⊢
    tauto)
  have hok : d.answer.isOk = true := by simp [hans, Except.isOk, Except.toBool]
  obtain ⟨field, hpair⟩ : ∃ field, c.method = "get_iam_policy" ∧ field = "iam_policy" ∨
      c.method = "get_dataset_policy" ∧ field = "dataset_policy" := by
    rcases hcalls c (by simp) with hc | hc
    · exact ⟨_, .inl ⟨hc, rfl⟩⟩
    · exact ⟨_, .inr ⟨hc, rfl⟩⟩
  -- no call in `mid` had a response from its client: it would have set both caches before `d`
  have hbefore := dataset_cache_kept_run x cv stack hr hpair mid
    (fun e he => hmem e (by simp [he])) (dataset_stores_result x cv stack hr hpair hnull)
    (.inr fun mid₁ e mid₂ heq _ ⟨he, heok⟩ => by
      subst heq
      have hset := dataset_caches_set x cv stack hr (hmem e (by simp)) he heok
      rw [dataset_not_called_of_set x cv stack hr (by
        simpa [attrsAfter_append, attrsAfter] using
          And.intro (isSome_attrsAfter hkeep mid₂ hset.1) (isSome_attrsAfter hkeep mid₂ hset.2))
        (hmem d (by simp))] at hcalled
      cases hcalled)
  simp only [attrsAfter_append, attrsAfter] at hbefore hcalled ⊢
  obtain ⟨projectId, projectNumber, datasetId, hargs, hpre⟩ := dataset_prefill_step x cv stack hr
    hpair (hmem d (by simp)) hd hbefore hcalled hans
  -- after `d`, both caches are set, so nothing in `mid'` changes the prefilled value
  have hset := dataset_caches_set x cv stack hr (hmem d (by simp)) hcalled hok
  refine ⟨projectId, projectNumber, datasetId, hargs, hm ▸ dataset_returns_cache x cv stack hr hpair
    (dataset_cache_kept_run x cv stack hr hpair mid' (fun e he => hmem e (by simp [he])) hpre
      (.inr fun mid₁ e mid₂ heq _ ⟨he, _⟩ => ?_)) _⟩
  rw [dataset_not_called_of_set x cv stack hr
    ⟨isSome_attrsAfter hkeep mid₁ hset.1, isSome_attrsAfter hkeep mid₁ hset.2⟩
    (hmem e (by simp [heq]))] at he
  cases he

/-- For every dataset, every sequence of calls of its two getters from any attributes, and any
answers of the clients: once a call of a getter returned a value other than `None`, every later
call of that getter returns that value; a getter that returned `None` returns something else
later only after a call of the other getter in between invoked its client and had a response; and
after such a call it returns the conversion of that response, which `_set_cache` put over the
`None`. -/
theorem dataset_getter_keeps_or_prefills (hr : r.cls.className = "BigqueryDataSet") (a : Attrs)
    (calls : List Call)
    (hcalls : ∀ c ∈ calls, c.method = "get_iam_policy" ∨ c.method = "get_dataset_policy") :
    (∀ (pre mid post : List Call) (c c' : Call), calls = pre ++ c :: mid ++ c' :: post →
      c'.method = c.method →
      (∀ v, (getters x cv r stack c.method (attrsAfter (getters x cv r stack) a pre) c.answer).res =
          .ok v → v ≠ .null →
        (getters x cv r stack c'.method (attrsAfter (getters x cv r stack) a (pre ++ c :: mid))
          c'.answer).res = .ok v) ∧
      ((getters x cv r stack c.method (attrsAfter (getters x cv r stack) a pre) c.answer).res =
          .ok .null → ∀ w,
        (getters x cv r stack c'.method (attrsAfter (getters x cv r stack) a (pre ++ c :: mid))
          c'.answer).res = .ok w → w ≠ .null →
        ∃ mid₁ d mid₂, mid = mid₁ ++ d :: mid₂ ∧ d.method ≠ c.method ∧
          (getters x cv r stack d.method (attrsAfter (getters x cv r stack) a (pre ++ c :: mid₁))
            d.answer).called = true ∧ d.answer.isOk = true)) ∧
    ∀ (pre mid mid' post : List Call) (c d c' : Call),
      calls = pre ++ c :: mid ++ d :: mid' ++ c' :: post → c'.method = c.method →
      d.method ≠ c.method →
      (getters x cv r stack c.method (attrsAfter (getters x cv r stack) a pre) c.answer).res =
        .ok .null →
      (getters x cv r stack d.method (attrsAfter (getters x cv r stack) a (pre ++ c :: mid))
        d.answer).called = true →
      ∀ data, d.answer = .ok data →
      ∃ projectId projectNumber datasetId,
        BigqueryDataSet.callArgs x r stack = .ok (projectId, projectNumber, datasetId) ∧
        (getters x cv r stack c'.method
            (attrsAfter (getters x cv r stack) a (pre ++ c :: mid ++ d :: mid')) c'.answer).res =
          .ok (if c.method = "get_iam_policy" then cv.convertBigqueryPolicyToIam data projectId
            else cv.convertIamToBigqueryPolicy data) :=
  ⟨fun pre mid post c c' hsplit hm =>
    dataset_getter_keeps_value x cv stack hr a calls hcalls pre mid post c c' hsplit hm,
   fun pre mid mid' post c d c' hsplit hm hd hnull hcalled _ hans =>
    dataset_prefill_replaces_none x cv stack hr a calls hcalls pre mid mid' post c d c' hsplit hm hd
      hnull hcalled hans⟩

end Dataset

/-- A call of `get_iam_policy` whose client is denied, a call of `get_dataset_policy` with a
response, and another call of `get_iam_policy`. -/
def prefillCalls : List Call :=
  [⟨"get_iam_policy", .error (.apiExecutionError "403 Forbidden")⟩,
   ⟨"get_dataset_policy", .ok (.obj [("access", .list [])])⟩,
   ⟨"get_iam_policy", .ok (.obj [("bindings", .list [])])⟩]

/-- The statement at `prefillCalls`: its first call of `get_iam_policy` returns `None`; the call of
`get_dataset_policy` between the two has a response; so the second call of `get_iam_policy`
returns the conversion of that response. -/
theorem dataset_getter_keeps_or_prefills_prefill :
    sampleDataset.cls.className = "BigqueryDataSet" ∧
    (∀ c ∈ prefillCalls, c.method = "get_iam_policy" ∨ c.method = "get_dataset_policy") ∧
    prefillCalls = [] ++ prefillCalls[0] :: [] ++ prefillCalls[1] :: [] ++ prefillCalls[2] :: [] ∧
    (getters sampleExternals sampleConverters sampleDataset [sampleOrg, sampleProject]
        prefillCalls[0].method (attrsAfter (getters sampleExternals sampleConverters sampleDataset
          [sampleOrg, sampleProject]) (fun _ => none) []) prefillCalls[0].answer).res = .ok .null ∧
    (getters sampleExternals sampleConverters sampleDataset [sampleOrg, sampleProject]
        prefillCalls[1].method (attrsAfter (getters sampleExternals sampleConverters sampleDataset
          [sampleOrg, sampleProject]) (fun _ => none) ([] ++ prefillCalls[0] :: []))
        prefillCalls[1].answer).called = true ∧
    ∃ projectId projectNumber datasetId,
      BigqueryDataSet.callArgs sampleExternals sampleDataset [sampleOrg, sampleProject] =
        .ok (projectId, projectNumber, datasetId) ∧
      (getters sampleExternals sampleConverters sampleDataset [sampleOrg, sampleProject]
          prefillCalls[2].method (attrsAfter (getters sampleExternals sampleConverters
            sampleDataset [sampleOrg, sampleProject]) (fun _ => none)
            ([] ++ prefillCalls[0] :: [] ++ prefillCalls[1] :: [])) prefillCalls[2].answer).res =
        .ok (if prefillCalls[0].method = "get_iam_policy" then
          sampleConverters.convertBigqueryPolicyToIam (.obj [("access", .list [])]) projectId
          else sampleConverters.convertIamToBigqueryPolicy (.obj [("access", .list [])])) :=
  have hcalls : ∀ c ∈ prefillCalls, c.method = "get_iam_policy" ∨
      c.method = "get_dataset_policy" := by decide
  have hnull : (getters sampleExternals sampleConverters sampleDataset [sampleOrg, sampleProject]
      prefillCalls[0].method (attrsAfter (getters sampleExternals sampleConverters sampleDataset
        [sampleOrg, sampleProject]) (fun _ => none) []) prefillCalls[0].answer).res = .ok .null :=
    rfl
  have hcalled : (getters sampleExternals sampleConverters sampleDataset [sampleOrg, sampleProject]
      prefillCalls[1].method (attrsAfter (getters sampleExternals sampleConverters sampleDataset
        [sampleOrg, sampleProject]) (fun _ => none) ([] ++ prefillCalls[0] :: []))
      prefillCalls[1].answer).called = true := rfl
  ⟨rfl, hcalls, rfl, hnull, hcalled, (dataset_getter_keeps_or_prefills sampleExternals
    sampleConverters [sampleOrg, sampleProject] rfl (fun _ => none) prefillCalls hcalls).2 [] [] []
    [] prefillCalls[0] prefillCalls[1] prefillCalls[2] rfl rfl (by decide) hnull hcalled _ rfl⟩

/-- `get_iam_policy` returns `None` when its client is denied; after `get_dataset_policy` has had
a response, the next `get_iam_policy` returns the policy that `_set_cache` put over the `None`. -/
theorem failed_iam_policy_replaced_by_prefill :
    (runCalls (getters sampleExternals sampleConverters sampleDataset [sampleOrg, sampleProject])
        (fun _ => none) prefillCalls).map GetterRun.res =
      [.ok .null, .ok (.obj [("access", .list [])]), .ok (.obj [("access", .list [])])] := by
  rfl

end InventoryCrawler
