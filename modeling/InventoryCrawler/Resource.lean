import InventoryCrawler.Thread

/-!
# What the crawler calls on a resource

`accept` and `try_accept` call a handful of methods on a resource: `type`, `key`, `parent`,
`should_dispatch`, `__getitem__`, `__repr__`, `get_full_resource_name`. The first ones are
overridden per class (`resource_class_factory`, `IamCuratedRole.parent`, `LoggingSink.key`, ...);
`Methods` collects them as fields, so that the engine of `Accept.lean` is stated once for every
class. `Registry.lean` gives the fields of the classes of `resources.py`.

The rest is computed here from the fields, as `Resource` computes it: `parent`, `repr`,
`fullName`, and `curResourceRepr`, the names `accept` looks up in `excluded_resources`. A method
that raises returns an `Except`.
-/

namespace InventoryCrawler

/-- The methods of a resource that the crawler calls: those of `Resource` with the overrides of
its class, what it reads of the resource's data, and the two helpers of `utils` that
`get_full_resource_name` uses (`utils.py` is not in the repository's sources). -/
structure Methods (R : Type) where
  /-- `self.__class__.__name__`. -/
  className : R → String
  /-- `type()`. -/
  type : R → String
  /-- `key()`, under the stack the resource's `accept` stored. -/
  key : R → List R → Except Exn String
  /-- `self[field]` as `str` renders it, or the `KeyError` of `__getitem__`. -/
  item : R → String → Except Exn String
  /-- `json.dumps(self._data, sort_keys=True)`. -/
  dumps : R → String
  /-- `self._root`. -/
  isRoot : R → Bool
  /-- Whether `parent()` is `Resource.parent`: false for `IamCuratedRole`, whose `parent()` is
  always `None`. -/
  hasParent : R → Bool
  /-- `should_dispatch()`. -/
  shouldDispatch : R → Bool
  /-- The `contains` list of the type's `FACTORIES` entry, by class name. -/
  contains : R → List String
  /-- `self._warning` when the resource is made: a placeholder from `fetch` carries one. -/
  warnings : R → List String
  /-- `utils.to_type_name`. -/
  toTypeName : String → String → String
  /-- `utils.to_full_resource_name`. -/
  toFullResourceName : String → String → String
  /-- A class whose `parent()` is `None` has no iterators: `iam_curated_role` contains nothing. -/
  contains_eq_nil : ∀ r, hasParent r = false → contains r = []

namespace Methods

variable {R : Type} (m : Methods R)

/-- `parent()` of a resource whose `accept` stored `stack`: the resource itself for a root, the top
of the stack otherwise, and `None` on an empty stack or for a class whose `parent()` is `None`.
The parent comes with its own stack, the rest of `stack`, since `accept` hands every child
`stack + [self]`. -/
def parent (r : R) (stack : List R) : Option (R × List R) :=
  if !m.hasParent r then none
  else if m.isRoot r then some (r, stack)
  else match stack.getLast? with
    | some p => some (p, stack.dropLast)
    | none => none

/-- `__repr__`: `'{}<data="{}", parent_resource_type="{}", parent_resource_id="{}">'`, where
`parent().type()` raises `AttributeError` when `parent()` is `None`. -/
def repr (r : R) (stack : List R) : Except Exn String :=
  match m.parent r stack with
  | none => .error (.attributeError "'NoneType' object has no attribute 'type'")
  | some (p, ps) => do
    let k ← m.key p ps
    pure (m.className r ++ "<data=\"" ++ m.dumps r ++ "\", parent_resource_type=\"" ++ m.type p ++
      "\", parent_resource_id=\"" ++ k ++ "\">")

/-- `get_full_resource_name` of a resource whose stack is written parent first: the type name
`to_type_name(type(), key())`, after the parent's full name, or after `''` for a root or a resource
with no parent. -/
def fullNameRev (r : R) : List R → Except Exn String
  | [] => do
    let k ← m.key r []
    pure (m.toFullResourceName "" (m.toTypeName (m.type r) k))
  | p :: ps => do
    let k ← m.key r (p :: ps).reverse
    if m.isRoot r || !m.hasParent r then
      pure (m.toFullResourceName "" (m.toTypeName (m.type r) k))
    else do
      let parentName ← fullNameRev p ps
      pure (m.toFullResourceName parentName (m.toTypeName (m.type r) k))

/-- `get_full_resource_name()` of a resource whose `accept` stored `stack`. The cache of
`_full_resource_name` is left out here: `Stack.lean` shows it always holds this value. -/
def fullName (r : R) (stack : List R) : Except Exn String := m.fullNameRev r stack.reverse

/-- `cur_resource_repr` of `accept`: `'<type>/<key>'`, and for a project also
`'project/<projectNumber>'`. -/
def curResourceRepr (r : R) (stack : List R) : Except Exn (List String) := do
  let k ← m.key r stack
  let name := m.type r ++ "/" ++ k
  if m.type r = "project" then do
    let n ← m.item r "projectNumber"
    pure [name, m.type r ++ "/" ++ n]
  else pure [name]

/-- Whether `accept` returns at its exclusion check: the names compute and one of them is in
`excluded`. -/
def isExcluded (excluded : List String) (r : R) (stack : List R) : Bool :=
  match m.curResourceRepr r stack with
  | .ok names => names.any fun n => decide (n ∈ excluded)
  | .error _ => false

/-- Whether a resource gets past `accept`'s exclusion check: its names compute and none of them is
in `excluded`. -/
def passes (excluded : List String) (r : R) (stack : List R) : Bool :=
  match m.curResourceRepr r stack with
  | .ok names => !names.any fun n => decide (n ∈ excluded)
  | .error _ => false

/-- Where the names compute, passing the exclusion check is not being excluded. -/
theorem passes_eq_not_isExcluded (excluded : List String) {r : R} {stack : List R}
    {names : List String} (h : m.curResourceRepr r stack = .ok names) :
    m.passes excluded r stack = !m.isExcluded excluded r stack := by
  simp only [passes, isExcluded, h]

/-- A resource that passes the exclusion check has names, none of them excluded. -/
theorem curResourceRepr_of_passes {excluded : List String} {r : R} {stack : List R}
    (h : m.passes excluded r stack = true) : ∃ names, m.curResourceRepr r stack = .ok names ∧
      names.any (fun n => decide (n ∈ excluded)) = false := by
  unfold passes at h
  split at h
  · rename_i names hn
    exact ⟨names, hn, by simpa using h⟩
  · cases h

/-- A resource that passes the exclusion check has a key. -/
theorem key_ok_of_passes {excluded : List String} {r : R} {stack : List R}
    (h : m.passes excluded r stack = true) : ∃ k, m.key r stack = .ok k := by
  cases hk : m.key r stack with
  | ok k => exact ⟨k, rfl⟩
  | error e => simp [passes, curResourceRepr, hk] at h

/-- Under a stack ending in `p`, the parent of a resource that is neither a root nor parentless is
`p`, with the rest of the stack. -/
theorem parent_append (r p : R) (stack : List R) (hp : m.hasParent r = true)
    (hr : m.isRoot r = false) : m.parent r (stack ++ [p]) = some (p, stack) := by
  simp [parent, hp, hr]

/-- The parent of a root is itself. -/
theorem parent_of_isRoot (r : R) (stack : List R) (hp : m.hasParent r = true)
    (hr : m.isRoot r = true) : m.parent r stack = some (r, stack) := by
  simp [parent, hp, hr]

/-- `repr` computes when `parent()` exists and its key computes. -/
theorem repr_of_parent {r p : R} {stack ps : List R} {k : String}
    (hp : m.parent r stack = some (p, ps)) (hk : m.key p ps = .ok k) :
    m.repr r stack = .ok (m.className r ++ "<data=\"" ++ m.dumps r ++
      "\", parent_resource_type=\"" ++ m.type p ++ "\", parent_resource_id=\"" ++ k ++ "\">") := by
  simp only [repr, hp, hk]
  rfl

/-- The full name of a resource under a stack ending in its parent `p` extends `p`'s full name. -/
theorem fullName_append (r p : R) (stack : List R) (hp : m.hasParent r = true)
    (hr : m.isRoot r = false) :
    m.fullName r (stack ++ [p]) = (do
      let k ← m.key r (stack ++ [p])
      let parentName ← m.fullName p stack
      pure (m.toFullResourceName parentName (m.toTypeName (m.type r) k))) := by
  simp [fullName, fullNameRev, hp, hr]

/-- The full name of a resource on an empty stack starts from `''`. -/
theorem fullName_nil (r : R) :
    m.fullName r [] = (do
      let k ← m.key r []
      pure (m.toFullResourceName "" (m.toTypeName (m.type r) k))) := rfl

end Methods

end InventoryCrawler
