import Mathlib.Data.List.Infix

/-!
# Exceptions, reports, and the work of one thread

`Resource.accept` of `services/inventory/base/resources.py` runs on the caller's thread and on the
visitor's workers. What one thread does is a list of actions (`Act`): the calls it makes on the
visitor (`visit`, `dispatch`, `on_child_error`) and the writes it makes on its own resource (the
stack, the warnings). `Crawl` is that list together with the value or the exception the work ends
with; its `bind` keeps the actions of a computation that raised, as Python keeps the effects of a
call that raised.

A dispatched callback does not run where it is dispatched: the `dispatch` action carries the
actions the callback takes when a worker runs it, and `Pool.lean` interleaves them.
-/

namespace InventoryCrawler

/-- The exceptions of `resources.py`, by the class the code catches or raises. -/
inductive Exn where
  /-- `api_errors.ApiExecutionError`, with the text that `str(e)` gives. -/
  | apiExecutionError (msg : String)
  /-- `ResourceNotSupported`: the client does not implement the call. -/
  | resourceNotSupported (msg : String)
  /-- `KeyError(msg)`, as `Resource.__getitem__` raises it with `'key: {}, data: {}'`, or as a
  dict raises it with the missing key. -/
  | keyError (msg : String)
  /-- `AttributeError`, as `None.type()` raises it. -/
  | attributeError (msg : String)
  /-- `ValueError`, as `list.index` raises it for a missing element. -/
  | valueError (msg : String)
  /-- `IndexError`, as indexing a list past its end raises it. -/
  | indexError (msg : String)
  /-- `TypeError`, as indexing a value that is not a dict raises it. -/
  | typeError (msg : String)
  /-- `RecursionError`, as a method that calls itself without end raises it. -/
  | recursionError (msg : String)
  /-- A plain `Exception`, as `from_root_id` raises it for an unsupported root id. -/
  | exception (msg : String)
  deriving DecidableEq, Repr

/-- `n` in lowercase hexadecimal, padded with zeros to `width` digits, as `'{:0Nx}'` writes it. -/
def hexPad (width n : Nat) : List Char :=
  List.replicate (width - (Nat.toDigits 16 n).length) '0' ++ Nat.toDigits 16 n

/-- Whether Python's `repr` keeps a character that is not ASCII as it is (`str.isprintable`): in
Latin-1, all but the controls `U+0080` to `U+009F`, the no-break space `U+00A0` and the soft
hyphen `U+00AD`. Above Latin-1 the test reads Python's Unicode database, which the model does not
hold: those characters are taken as printable. -/
def pyPrintable (c : Char) : Bool :=
  !(0x80 ≤ c.toNat && c.toNat ≤ 0xa0) && c.toNat != 0xad

/-- One character of a string as Python's `repr` writes it between the quotes `q`: the quote and
the backslash escaped, `\t`, `\n` and `\r`, other controls and non-printable characters as
`\xhh`, `\uhhhh` or `\Uhhhhhhhh`, and every other character as it is. -/
def pyReprChar (q c : Char) : List Char :=
  if c = q ∨ c = '\\' then ['\\', c]
  else if c = '\t' then ['\\', 't']
  else if c = '\n' then ['\\', 'n']
  else if c = '\r' then ['\\', 'r']
  else if c.toNat < 0x20 ∨ c.toNat = 0x7f then '\\' :: 'x' :: hexPad 2 c.toNat
  else if c.toNat < 0x7f ∨ pyPrintable c then [c]
  else if c.toNat ≤ 0xff then '\\' :: 'x' :: hexPad 2 c.toNat
  else if c.toNat ≤ 0xffff then '\\' :: 'u' :: hexPad 4 c.toNat
  else '\\' :: 'U' :: hexPad 8 c.toNat

/-- Python's `repr` of a string: between double quotes when it holds a single quote and no double
quote, between single quotes otherwise, each character escaped by `pyReprChar`. -/
def pyStrRepr (s : String) : String :=
  let q := if s.toList.contains '\x27' && !s.toList.contains '"' then '"' else '\x27'
  String.mk (q :: s.toList.flatMap (pyReprChar q) ++ [q])

/-- `str(e)`: the message, but for a `KeyError`, whose `str` is the `repr` of its argument. -/
def Exn.str : Exn → String
  | .keyError msg => pyStrRepr msg
  | .apiExecutionError msg | .resourceNotSupported msg | .attributeError msg
  | .valueError msg | .indexError msg | .typeError msg | .recursionError msg | .exception msg =>
    msg

/-- `skip_errors` of `accept`: the phrases that make an `ApiExecutionError` benign. -/
def skipErrors : List String := ["Not found", "Unknown project id", "scheduled for deletion"]

/-- Python's `needle in hay` on strings. -/
def isIn (needle hay : String) : Bool := decide (needle.toList <:+: hay.toList)

/-- The test of `accept`'s `except` clause: an `ApiExecutionError` whose text holds a skip phrase. -/
def Exn.isSkipped : Exn → Bool
  | .apiExecutionError msg => skipErrors.any (isIn · msg)
  | _ => false

/-- The second argument of `on_child_error`: the exception `try_accept` caught, or the joined
warnings of a resource that `accept` flushes. -/
inductive Report where
  | exn (e : Exn)
  | warning (text : String)
  deriving DecidableEq, Repr

/-- Where a resource sits in a crawl: for each step down, the index of the iterator in the parent's
`contains` list and the index of the item in that iterator's output. The root is at `[]`. -/
abbrev Path := List (Nat × Nat)

/-- One action of a thread. -/
inductive Act (R : Type) where
  /-- `self._stack = stack`: the resource at `p` enters `accept` with `stack`. -/
  | enter (p : Path) (r : R) (stack : List R)
  /-- `visitor.visit(self)` of the resource at `p`, whose stack is `stack`. -/
  | visit (p : Path) (r : R) (stack : List R)
  /-- `self.add_warning(w)` on the resource at `p`. -/
  | warn (p : Path) (w : String)
  /-- `yielder_cls(self, visitor.get_client())`: the `i`-th class `cls` of `contains` is made and
  iterated. -/
  | drive (p : Path) (i : Nat) (cls : String)
  /-- `visitor.dispatch(callback)` for the resource at `p`: the pool is handed the callback, and
  `body` is what it does when a worker runs it. -/
  | dispatch (p : Path) (body : List (Act R))
  /-- `visitor.on_child_error(name, report)` about the resource at `p`. -/
  | childError (p : Path) (name : String) (report : Report)

/-- A method that returned passes its value on. -/
@[simp] theorem except_ok_bind {α β : Type} (a : α) (f : α → Except Exn β) :
    (Except.ok a >>= f) = f a := rfl

/-- A method that raised ends what follows it. -/
@[simp] theorem except_error_bind {α β : Type} (e : Exn) (f : α → Except Exn β) :
    (Except.error e >>= f) = .error e := rfl

/-- A piece of one thread's work: the actions it takes, in order, and the value it returns or the
exception it raises. -/
structure Crawl (R α : Type) where
  acts : List (Act R)
  res : Except Exn α

namespace Crawl

variable {R α β : Type}

/-- The crawl's monad: actions are appended in order, and an exception stops the rest. -/
instance : Monad (Crawl R) where
  pure a := ⟨[], .ok a⟩
  bind x f := match x.res with
    | .ok a => ⟨x.acts ++ (f a).acts, (f a).res⟩
    | .error e => ⟨x.acts, .error e⟩

/-- One action, returning normally. -/
def emit (a : Act R) : Crawl R Unit := ⟨[a], .ok ()⟩

/-- `raise e`. -/
def raise (e : Exn) : Crawl R α := ⟨[], .error e⟩

/-- A computation that takes no action. -/
def lift (x : Except Exn α) : Crawl R α := ⟨[], x⟩

/-- `try: x except Exception as e: h(e)`. -/
def handle (x : Crawl R α) (h : Exn → Crawl R α) : Crawl R α :=
  match x.res with
  | .ok _ => x
  | .error e => ⟨x.acts ++ (h e).acts, (h e).res⟩

/-- `pure` takes no action. -/
@[simp] theorem pure_acts (a : α) : (pure a : Crawl R α).acts = [] := rfl
/-- `pure` returns its value. -/
@[simp] theorem pure_res (a : α) : (pure a : Crawl R α).res = .ok a := rfl
/-- `emit` takes its one action. -/
@[simp] theorem emit_acts (a : Act R) : (emit a).acts = [a] := rfl
/-- `emit` returns. -/
@[simp] theorem emit_res (a : Act R) : (emit a).res = .ok () := rfl
/-- `raise` takes no action. -/
@[simp] theorem raise_acts (e : Exn) : (raise e : Crawl R α).acts = [] := rfl
/-- `raise` raises its exception. -/
@[simp] theorem raise_res (e : Exn) : (raise e : Crawl R α).res = .error e := rfl
/-- A lifted method takes no action. -/
@[simp] theorem lift_acts (x : Except Exn α) : (lift x : Crawl R α).acts = [] := rfl
/-- A lifted method returns or raises what the method does. -/
@[simp] theorem lift_res (x : Except Exn α) : (lift x : Crawl R α).res = x := rfl

/-- A bind after a computation that returned. -/
theorem bind_of_ok {x : Crawl R α} {a : α} (h : x.res = .ok a) (f : α → Crawl R β) :
    x >>= f = ⟨x.acts ++ (f a).acts, (f a).res⟩ := by
  show (match x.res with | .ok a => _ | .error e => _) = _
  rw [h]

/-- A bind after a computation that raised. -/
theorem bind_of_error {x : Crawl R α} {e : Exn} (h : x.res = .error e) (f : α → Crawl R β) :
    x >>= f = ⟨x.acts, .error e⟩ := by
  show (match x.res with | .ok a => _ | .error e => _) = _
  rw [h]

/-- A lifted method that returned goes on with its value. -/
@[simp] theorem lift_ok_bind (v : α) (f : α → Crawl R β) : lift (.ok v) >>= f = f v :=
  (bind_of_ok rfl f).trans (by simp)

/-- A lifted method that raised ends what follows. -/
@[simp] theorem lift_error_bind (e : Exn) (f : α → Crawl R β) :
    lift (.error e) >>= f = ⟨[], .error e⟩ := bind_of_error rfl f

/-- A handled computation that returned is itself. -/
theorem handle_of_ok {x : Crawl R α} {a : α} (h : x.res = .ok a) (k : Exn → Crawl R α) :
    handle x k = x := by
  unfold handle; rw [h]

/-- A handled computation that raised continues with the handler. -/
theorem handle_of_error {x : Crawl R α} {e : Exn} (h : x.res = .error e) (k : Exn → Crawl R α) :
    handle x k = ⟨x.acts ++ (k e).acts, (k e).res⟩ := by
  unfold handle; rw [h]

/-- A bind that returned had its first part return, and its continuation return from there. -/
theorem res_bind_eq_ok {x : Crawl R α} {f : α → Crawl R β} {b : β} (h : (x >>= f).res = .ok b) :
    ∃ a, x.res = .ok a ∧ (f a).res = .ok b := by
  cases hx : x.res with
  | error e => rw [bind_of_error hx] at h; cases h
  | ok a => rw [bind_of_ok hx] at h; exact ⟨a, rfl, h⟩

/-- Every action of a bind is an action of its first part or of the continuation at the value it
returned. -/
theorem mem_bind {x : Crawl R α} {f : α → Crawl R β} {a : Act R} (h : a ∈ (x >>= f).acts) :
    a ∈ x.acts ∨ ∃ v, x.res = .ok v ∧ a ∈ (f v).acts := by
  cases hx : x.res with
  | error e => rw [bind_of_error hx] at h; exact .inl h
  | ok v =>
    rw [bind_of_ok hx] at h
    rcases List.mem_append.mp h with h | h
    · exact .inl h
    · exact .inr ⟨v, rfl, h⟩

/-- Every action of a handled computation is one of its own or one of the handler's. -/
theorem mem_handle {x : Crawl R α} {k : Exn → Crawl R α} {a : Act R} (h : a ∈ (handle x k).acts) :
    a ∈ x.acts ∨ ∃ e, x.res = .error e ∧ a ∈ (k e).acts := by
  cases hx : x.res with
  | ok v => rw [handle_of_ok hx] at h; exact .inl h
  | error e =>
    rw [handle_of_error hx] at h
    rcases List.mem_append.mp h with h | h
    · exact .inl h
    · exact .inr ⟨e, rfl, h⟩

end Crawl

end InventoryCrawler
