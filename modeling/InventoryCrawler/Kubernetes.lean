import InventoryCrawler.Roots

/-!
# Where a cluster runs: `zone()` and `location()`

`KubernetesCluster.zone()` and `location()` read the cluster's `selfLink`, split it at `/`, and
return the part that follows the first `zones` (or `locations`) part:
`self_link_parts[self_link_parts.index('zones') + 1]`, inside `try` with
`except (KeyError, ValueError): return None`. The two are one definition, `selfLinkPart`, applied
to their segment.

A missing `selfLink` raises `KeyError` and a link without the segment makes `list.index` raise
`ValueError`: both give `None` (`selfLinkPart_of_missing`, `selfLinkPart_of_not_mem`). When the
first such part is followed by another, that one is returned (`selfLinkPart_of_next`). When it is
the last part, the index is past the end of the list, and the `IndexError` that indexing raises is
not caught (`selfLinkPart_of_last`).
-/

namespace InventoryCrawler

/-- `s.split(sep)` for a separator of one character: the runs of characters between the
separators, empty ones included. -/
def pySplit (s : String) (sep : Char) : List String := (s.toList.splitOn sep).map String.mk

/-- `xs.index(x)`: the position of the first element equal to `x`, or
`ValueError("'x' is not in list")`. -/
def pyIndex (xs : List String) (x : String) : Except Exn Nat :=
  if x ∈ xs then .ok (xs.indexOf x) else .error (.valueError ("'" ++ x ++ "' is not in list"))

/-- `xs[i]` for `0 ≤ i`: the element at `i`, or `IndexError('list index out of range')`. -/
def pyGetItem (xs : List String) (i : Nat) : Except Exn String :=
  match xs[i]? with
  | some x => .ok x
  | none => .error (.indexError "list index out of range")

/-- The body of `KubernetesCluster.location()` and `zone()`, with the segment they look for:
`self_link_parts = self['selfLink'].split('/')` and
`return self_link_parts[self_link_parts.index(segment) + 1]`, with
`except (KeyError, ValueError): return None`. -/
def KubernetesCluster.selfLinkPart (r : Resource) (segment : String) :
    Except Exn (Option String) :=
  match (do
      let parts := pySplit (← (← r.data.getItem "selfLink").asStr "split") '/'
      pyGetItem parts ((← pyIndex parts segment) + 1) : Except Exn String) with
  | .ok part => .ok (some part)
  | .error (.keyError _) | .error (.valueError _) => .ok none
  | .error e => .error e

/-- `KubernetesCluster.location()`. -/
def KubernetesCluster.location (r : Resource) : Except Exn (Option String) :=
  KubernetesCluster.selfLinkPart r "locations"

/-- `KubernetesCluster.zone()`. -/
def KubernetesCluster.zone (r : Resource) : Except Exn (Option String) :=
  KubernetesCluster.selfLinkPart r "zones"

/-- `list.index` finds the first occurrence. -/
theorem pyIndex_of_first {xs pre post : List String} {x : String}
    (hxs : xs = pre ++ x :: post) (hpre : x ∉ pre) : pyIndex xs x = .ok pre.length := by
  subst hxs
  rw [pyIndex, if_pos (by simp), List.indexOf_append_of_not_mem hpre, List.indexOf_cons_self]
  rfl

/-- `list.index` of an absent element raises `ValueError`. -/
theorem pyIndex_of_not_mem {xs : List String} {x : String} (h : x ∉ xs) :
    pyIndex xs x = .error (.valueError ("'" ++ x ++ "' is not in list")) := by
  rw [pyIndex, if_neg h]

/-- `xs[0]` of a non-empty list is its head. -/
@[simp] theorem pyGetItem_cons_zero (x : String) (xs : List String) :
    pyGetItem (x :: xs) 0 = .ok x := by
  simp [pyGetItem]

/-- Indexing an empty list raises `IndexError`. -/
@[simp] theorem pyGetItem_nil (i : Nat) :
    pyGetItem [] i = .error (.indexError "list index out of range") := by
  simp [pyGetItem]

/-- Indexing raises nothing but `IndexError`. -/
theorem pyGetItem_eq_error {xs : List String} {i : Nat} {e : Exn} (h : pyGetItem xs i = .error e) :
    e = .indexError "list index out of range" := by
  unfold pyGetItem at h
  split at h <;> cases h
  rfl

/-- Indexing one past an element reads the list after it. -/
theorem pyGetItem_after (pre post : List String) (x : String) :
    pyGetItem (pre ++ x :: post) (pre.length + 1) = pyGetItem post 0 := by
  unfold pyGetItem
  rw [List.getElem?_append_right (by omega), Nat.add_sub_cancel_left, List.getElem?_cons_succ]

namespace KubernetesCluster

variable {r : Resource} {segment : String}

/-- Without a `selfLink` there is no part: `KeyError` is caught. -/
theorem selfLinkPart_of_missing (h : r.data.lookup "selfLink" = none) :
    selfLinkPart r segment = .ok none := by
  simp [selfLinkPart, Data.getItem, h]

/-- A link without the segment has no part: `ValueError` is caught. -/
theorem selfLinkPart_of_not_mem {s : String} (h : r.data.lookup "selfLink" = some (.str s))
    (hseg : segment ∉ pySplit s '/') : selfLinkPart r segment = .ok none := by
  simp [selfLinkPart, Data.getItem, h, Value.asStr, pyIndex_of_not_mem hseg]

/-- When the first occurrence of the segment is followed by a part, that part is the answer. -/
theorem selfLinkPart_of_next {s part : String} {pre rest : List String}
    (h : r.data.lookup "selfLink" = some (.str s))
    (hsplit : pySplit s '/' = pre ++ segment :: part :: rest) (hpre : segment ∉ pre) :
    selfLinkPart r segment = .ok (some part) := by
  simp [selfLinkPart, Data.getItem, h, Value.asStr, hsplit, pyIndex_of_first rfl hpre,
    pyGetItem_after]

/-- When the first occurrence of the segment is the last part, indexing past it raises
`IndexError`, which is not caught. -/
theorem selfLinkPart_of_last {s : String} {pre : List String}
    (h : r.data.lookup "selfLink" = some (.str s)) (hsplit : pySplit s '/' = pre ++ [segment])
    (hpre : segment ∉ pre) :
    selfLinkPart r segment = .error (.indexError "list index out of range") := by
  simp [selfLinkPart, Data.getItem, h, Value.asStr, hsplit, pyIndex_of_first rfl hpre,
    pyGetItem_after]

/-- On a `selfLink` that is a string, the one exception that escapes is `IndexError`. -/
theorem selfLinkPart_error_of_str {s : String} (h : r.data.lookup "selfLink" = some (.str s))
    {e : Exn} (he : selfLinkPart r segment = .error e) :
    e = .indexError "list index out of range" := by
  by_cases hseg : segment ∈ pySplit s '/'
  · simp [selfLinkPart, Data.getItem, h, Value.asStr, pyIndex, hseg] at he
    split at he <;> cases he
    exact pyGetItem_eq_error ‹_›
  · rw [selfLinkPart_of_not_mem h hseg] at he
    cases he

end KubernetesCluster

end InventoryCrawler
