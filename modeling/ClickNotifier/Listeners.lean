import Mathlib.Data.List.Basic

/-!
# The listener list of an `ActiveNotifier`

`ActiveNotifier::listener_change` and its callers, translated from `lib/notifier.cc`. Pointers
are addresses and `0` is null. The heap array `_listeners` is a list of slots, `none` for a slot
never written. The model returns `none` where the code would read outside the array or an
unwritten slot, write past the array it allocated, or fail its assertion; `alloc k` says whether
`new task_or_signal_t[k]` succeeds.
-/

namespace ClickNotifier

abbrev Slot := Option Nat

/-- The listener fields of an `ActiveNotifier`: `_listener1` and `_listeners`. -/
structure ActiveNotifier where
  listener1 : Nat
  listenerArray : Option (List Slot)
  deriving DecidableEq, Repr

namespace ActiveNotifier

/-- `ActiveNotifier::ActiveNotifier`: `_listener1(0), _listeners(0)`. -/
def init : ActiveNotifier := ⟨0, none⟩

def readSlot (a : List Slot) (i : Nat) : Option Nat := a[i]?.join

/-- The counting loop of line 247: `tos->v ? n++ : x++` while `x < 2`. -/
def countLoop : Nat → List Slot → Option Nat
  | _ + 2, _ => some 0
  | _, [] => none
  | _, none :: _ => none
  | x, some v :: rest => if v ≠ 0 then (countLoop x rest).map (· + 1) else countLoop (x + 1) rest

/-- Lines 247-250: the entries of `_listeners` before its second null, and `_listener1`. -/
def countListeners (s : ActiveNotifier) : Option Nat := do
  let n ← match s.listenerArray with
    | none => pure 0
    | some slots => countLoop 0 slots
  pure (if s.listener1 ≠ 0 then n + 1 else n)

/-- The copy loop of line 266, with `what`, `where` (here `part`) and the flag `add`: the
entries it writes into `ntos`, in order, and the final value of `add`. -/
def copyLoop (what part : Nat) : Bool → Nat → List Slot → Option (List Nat × Bool)
  | add, _ + 2, _ => some ([], add)
  | _, _, [] => none
  | _, _, none :: _ => none
  | add, x, some v :: rest =>
    if v ≠ 0 ∧ (add ∨ v ≠ what) then
      (copyLoop what part (if v = what then false else add) x rest).map
        fun (out, add') => (v :: out, add')
    else if v = 0 then
      (copyLoop what part add (x + 1) rest).map
        fun (out, add') => ((if add ∧ part = x then [what] else []) ++ 0 :: out, add')
    else copyLoop what part add x rest

/-- Lines 280-291: empty, back to the inline slot, or adopt `ntos`; `&&` reads lazily. -/
def collapse (ntos : List Slot) : Option ActiveNotifier := do
  let e0 ← readSlot ntos 0
  if e0 = 0 then
    let e1 ← readSlot ntos 1
    if e1 = 0 then pure ⟨0, none⟩ else pure ⟨0, some ntos⟩
  else
    let e1 ← readSlot ntos 1
    if e1 = 0 then
      let e2 ← readSlot ntos 2
      if e2 = 0 then pure ⟨e0, none⟩ else pure ⟨0, some ntos⟩
    else pure ⟨0, some ntos⟩

/-- `ActiveNotifier::listener_change(what, where, add)`, with `where` written `part`. -/
def listenerChange (alloc : Nat → Bool) (what part : Nat) (add : Bool) (s : ActiveNotifier) :
    Option (Int × ActiveNotifier) := do
  if s.listener1 = 0 ∧ s.listenerArray = none ∧ part = 0 ∧ add then
    return (0, { s with listener1 := what })
  let n ← countListeners s
  let size := n + 2 + if add then 1 else 0
  if !alloc size then return (-1, s)
  if s.listenerArray = none ∧ !alloc 3 then return (-1, s)
  let (out, add') ← copyLoop what part add 0 (s.listenerArray.getD [some s.listener1, some 0, some 0])
  guard (out.length ≤ size)
  guard (out.length ≤ n + 2 + if add' then 1 else 0)
  let s' ← collapse (out.map some ++ List.replicate (size - out.length) none)
  return (0, s')

/-- `ActiveNotifier::add_listener`. -/
def addListener (alloc : Nat → Bool) (task : Nat) (s : ActiveNotifier) : Option (Int × ActiveNotifier) :=
  listenerChange alloc task 0 true s

/-- `ActiveNotifier::remove_listener`, which drops the result code. -/
def removeListener (alloc : Nat → Bool) (task : Nat) (s : ActiveNotifier) : Option ActiveNotifier :=
  (listenerChange alloc task 0 false s).map Prod.snd

/-- `ActiveNotifier::add_dependent_signal`. -/
def addDependentSignal (alloc : Nat → Bool) (signal : Nat) (s : ActiveNotifier) :
    Option (Int × ActiveNotifier) :=
  listenerChange alloc signal 1 true s

/-- The loop of `ActiveNotifier::listeners`: entries up to the first null. -/
def tasksLoop : List Slot → Option (List Nat)
  | [] => none
  | none :: _ => none
  | some t :: rest => if t = 0 then some [] else (tasksLoop rest).map (t :: ·)

/-- `ActiveNotifier::listeners(v)`: the tasks it pushes onto `v`. -/
def listeners (s : ActiveNotifier) : Option (List Nat) :=
  if s.listener1 ≠ 0 then some [s.listener1]
  else match s.listenerArray with
    | none => some []
    | some slots => tasksLoop slots

/-- The dependent signals: the entries of `_listeners` between its first and second null. -/
def dependentSignals (s : ActiveNotifier) : Option (List Nat) :=
  match s.listenerArray with
  | none => some []
  | some slots => tasksLoop (slots.dropWhile (· ≠ some 0)).tail

end ActiveNotifier

end ClickNotifier
