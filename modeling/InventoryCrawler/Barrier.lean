import InventoryCrawler.Warnings

/-!
# What `try_accept` lets through

`try_accept` wraps a child's `accept` in `try: ... except Exception as e:`, and its handler
builds the log text `'Exception raised processing %s: %s' % (self, e)`, which calls
`repr(self)`, then calls `visitor.on_child_error(self.get_full_resource_name(), e)`. The handler
runs outside the `try`: what it raises leaves `try_accept`.

Both of these call `key()`, and so does the exclusion check at the start of `accept`. A child whose
data lacks its key field raises `KeyError` there, and raises it again from the handler
(`tryAccept_of_key_error`). The `KeyError` then ends the parent's iterator, as any exception from
the loop over its items does: the siblings after the child are never crawled, and the parent gets
a warning (`keyless_role_escapes_try_accept`).
-/

namespace InventoryCrawler

open Crawl

variable {R : Type} (m : Methods R) (V : Visitor R)

/-- The exclusion check raises what `key()` raises. -/
theorem curResourceRepr_of_key_error {r : R} {stack : List R} {e : Exn}
    (hk : m.key r stack = .error e) : m.curResourceRepr r stack = .error e := by
  simp [Methods.curResourceRepr, hk]

/-- `get_full_resource_name()` raises what `key()` raises. -/
theorem fullName_of_key_error {r : R} {stack : List R} {e : Exn} (hk : m.key r stack = .error e) :
    m.fullName r stack = .error e := by
  rw [← List.reverse_reverse stack] at hk
  unfold Methods.fullName
  generalize stack.reverse = rs at hk
  cases rs <;> simp_all [Methods.fullNameRev]

/-- A resource whose `key()` raises is entered, and its `accept` raises that exception at the
exclusion check, before anything else. -/
theorem accept_of_key_error (p : Path) {r : R} (runs : List (IterRun R)) {stack : List R} {e : Exn}
    (hk : m.key r stack = .error e) :
    accept m V p (.node r runs) stack = ⟨[.enter p r stack], .error e⟩ := by
  rw [accept, acceptWith, bind_of_ok (emit_res _), curResourceRepr_of_key_error m hk,
    lift_error_bind]
  rfl

/-- A child whose `key()` raises, and whose `repr` computes, raises the `key()` exception out of
`try_accept`: its `accept` raises it at the exclusion check, and its handler raises it again from
`get_full_resource_name()`. -/
theorem tryAccept_of_key_error (p : Path) {r : R} (runs : List (IterRun R)) {stack : List R}
    {e : Exn} {s : String} (hk : m.key r stack = .error e) (hr : m.repr r stack = .ok s) :
    tryAccept m V p r stack (accept m V p (.node r runs) stack) =
      ⟨[.enter p r stack], .error e⟩ := by
  rw [tryAccept, accept_of_key_error m V p runs hk, handle_of_error rfl]
  simp [hr, fullName_of_key_error m hk]

/-- A role as an organization's role iterator may yield it, with no "name", its key field. -/
def keylessRole : Resource := ⟨.iamRole, [("title", .str "Viewer")], false, []⟩

/-- A custom role of the sample organization. -/
def auditorRole : Resource :=
  ⟨.iamRole, [("name", .str "organizations/1/roles/auditor")], false, []⟩

/-- The sample organization, whose fifth iterator, `IamOrganizationRoleIterator`, yields
`keylessRole` and then `auditorRole`. -/
def keylessTree : Served Resource :=
  .node sampleOrg (List.replicate 4 (.mk [] none) ++
    [.mk [.node keylessRole [], .node auditorRole []] none])

set_option maxRecDepth 4000 in
/-- `try_accept` of a role without "name" under the organization raises, for every visitor, the
`KeyError` of its key; in the crawl of `keylessTree` this ends the role iterator: `auditorRole`,
yielded after it, is entered in no schedule, and the organization's loop records the `KeyError` as
a warning on the organization, which every finished schedule delivers. -/
theorem keyless_role_escapes_try_accept :
    (∀ (V : Visitor Resource) (p : Path) (runs : List (IterRun Resource)),
      (tryAccept (resourceMethods sampleExternals) V p keylessRole [sampleOrg]
        (accept (resourceMethods sampleExternals) V p (.node keylessRole runs) [sampleOrg])).res =
        .error (.keyError "key: name, data: \x7b'title': 'Viewer'\x7d")) ∧
    ∀ s, Reachable (resourceMethods sampleExternals) sampleVisitor keylessTree s →
      .enter [(4, 1)] auditorRole [sampleOrg] ∉ s.log ∧
      (s.Done → .warn [] ("Exception raised processing ResourceManagerOrganization<data=\"\x7b" ++
        "\"name\": \"organizations/1\"\x7d\", parent_resource_type=\"organization\", " ++
        "parent_resource_id=\"1\">: \"key: name, data: \x7b'title': 'Viewer'\x7d\"") ∈ s.log) := by
  have hacts : (accept (resourceMethods sampleExternals) sampleVisitor [] keylessTree []).acts =
      [.enter [] sampleOrg [], .visit [] sampleOrg [], .drive [] 0 "BillingAccountIterator",
        .drive [] 1 "GsuiteGroupIterator", .drive [] 2 "GsuiteUserIterator",
        .drive [] 3 "IamOrganizationCuratedRoleIterator", .drive [] 4 "IamOrganizationRoleIterator",
        .enter [(4, 0)] keylessRole [sampleOrg],
        .warn [] ("Exception raised processing ResourceManagerOrganization<data=\"\x7b" ++
          "\"name\": \"organizations/1\"\x7d\", parent_resource_type=\"organization\", " ++
          "parent_resource_id=\"1\">: \"key: name, data: \x7b'title': 'Viewer'\x7d\""),
        .drive [] 5 "LoggingOrganizationSinkIterator",
        .drive [] 6 "ResourceManagerOrganizationOrgPolicyIterator",
        .drive [] 7 "ResourceManagerFolderIterator", .drive [] 8 "ResourceManagerProjectIterator",
        .drive [] 9 "ResourceManagerOrganizationAccessPolicyIterator",
        .childError [] "/organization/1" (.warning ("Exception raised processing " ++
          "ResourceManagerOrganization<data=\"\x7b\"name\": \"organizations/1\"\x7d\", " ++
          "parent_resource_type=\"organization\", parent_resource_id=\"1\">: \"key: name, " ++
          "data: \x7b'title': 'Viewer'\x7d\""))] := rfl
  obtain ⟨text, hr⟩ : ∃ text, (resourceMethods sampleExternals).repr keylessRole [sampleOrg] =
    .ok text := ⟨_, rfl⟩
  refine ⟨fun V p runs => by rw [tryAccept_of_key_error _ V p runs rfl hr]; rfl, fun s hs => ?_⟩
  have hser :
      Serial (accept (resourceMethods sampleExternals) sampleVisitor [] keylessTree []).acts := by
    simp only [hacts, Serial, List.forall_mem_cons, Act.spawned, List.not_mem_nil,
      IsEmpty.forall_iff, implies_true, and_self]
  obtain ⟨rest, hth, hlog⟩ := serial_reachable hser hs
  refine ⟨fun hm => ?_, fun hd => ?_⟩
  · have := List.mem_append_left rest hm
    rw [hlog, hacts] at this
    simp [keylessRole, sampleOrg, auditorRole] at this
  · obtain rfl : rest = [] := hd rest (by simp [hth])
    rw [List.append_nil] at hlog
    rw [hlog, hacts]
    simp

end InventoryCrawler
