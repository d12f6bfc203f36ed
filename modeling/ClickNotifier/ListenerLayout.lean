import ClickNotifier.Listeners
import Mathlib.Data.List.Nodup

/-!
# What the listener representation stands for

The abstract state of a listener list is a pair of lists, the tasks and the dependent signals.
`Layout` says how `listener_change` lays such a pair out: nothing for no entry, the inline slot
`_listener1` for a lone task, and otherwise the array of tasks, a null, signals and a null.
The loops of `listener_change` are specified here one partition at a time, over any laid-out
array and any call; `allocFails` says, from the two lists, when a call fails on `new[]`.
-/

namespace ClickNotifier.ActiveNotifier

def appendNew (l : List Nat) (x : Nat) : List Nat := if x ∈ l then l else l ++ [x]

/-- The effect `listener_change(what, part, add)` should have on the tasks and the signals. -/
def change (what part : Nat) (add : Bool) (lists : List Nat × List Nat) : List Nat × List Nat :=
  let edit (l : List Nat) := if add then appendNew l what else l.erase what
  if part = 0 then (edit lists.1, lists.2) else (lists.1, edit lists.2)

/-- The array of tasks `ts` and signals `ss`, each partition closed by a null, and slots after
the second null that nothing reads. -/
def layoutArray (ts ss : List Nat) (rest : List Slot) : List Slot :=
  ts.map some ++ some 0 :: (ss.map some ++ some 0 :: rest)

/-- The representation of tasks `ts` and dependent signals `ss`. -/
inductive Layout : ActiveNotifier → List Nat → List Nat → Prop
  | empty : Layout ⟨0, none⟩ [] []
  | inline (t : Nat) : Layout ⟨t, none⟩ [t] []
  | array (ts ss : List Nat) (rest : List Slot) (shared : ¬(ts.length ≤ 1 ∧ ss = [])) :
      Layout ⟨0, some (layoutArray ts ss rest)⟩ ts ss

structure Partitions (ts ss : List Nat) : Prop where
  tasks_nodup : ts.Nodup
  signals_nodup : ss.Nodup
  tasks_nonnull : 0 ∉ ts
  signals_nonnull : 0 ∉ ss

def copySegment (what : Nat) : Bool → List Nat → List Nat × Bool
  | add, [] => ([], add)
  | add, v :: rest =>
    if add ∨ v ≠ what then
      let r := copySegment what (if v = what then false else add) rest
      (v :: r.1, r.2)
    else copySegment what add rest

theorem copySegment_false (what : Nat) (ps : List Nat) :
    copySegment what false ps = (ps.filter (· ≠ what), false) := by
  induction ps with
  | nil => rfl
  | cons v ps ih => by_cases h : v = what <;> simp [copySegment, h, ih]

theorem copySegment_true (what : Nat) {ps : List Nat} (nodup : ps.Nodup) :
    copySegment what true ps = (ps, decide (what ∉ ps)) := by
  induction ps with
  | nil => rfl
  | cons v ps ih =>
    obtain ⟨notMem, nodup⟩ := List.nodup_cons.mp nodup
    by_cases h : v = what
    · subst h
      simp [copySegment, copySegment_false, notMem]
      exact fun a member same => notMem (same ▸ member)
    · simp [copySegment, h, ih nodup, Ne.symm h]

private theorem lt_two {x : Nat} (hx : x < 2) : x = 0 ∨ x = 1 := by omega

private theorem countLoop_some {x : Nat} (hx : x < 2) (v : Nat) (rest : List Slot) :
    countLoop x (some v :: rest) =
      if v ≠ 0 then (countLoop x rest).map (· + 1) else countLoop (x + 1) rest := by
  rcases lt_two hx with rfl | rfl <;> rfl

private theorem countLoop_two (rest : List Slot) : countLoop 2 rest = some 0 := by
  rcases rest with _ | ⟨_ | _, _⟩ <;> rfl

private theorem copyLoop_two (what part : Nat) (add : Bool) (rest : List Slot) :
    copyLoop what part add 2 rest = some ([], add) := by
  rcases rest with _ | ⟨_ | _, _⟩ <;> rfl

private theorem copyLoop_some (what part : Nat) {x : Nat} (hx : x < 2) (add : Bool) (v : Nat)
    (rest : List Slot) :
    copyLoop what part add x (some v :: rest) =
      if v ≠ 0 ∧ (add ∨ v ≠ what) then
        (copyLoop what part (if v = what then false else add) x rest).map
          fun (out, add') => (v :: out, add')
      else if v = 0 then
        (copyLoop what part add (x + 1) rest).map
          fun (out, add') => ((if add ∧ part = x then [what] else []) ++ 0 :: out, add')
      else copyLoop what part add x rest := by
  rcases lt_two hx with rfl | rfl <;> rfl

theorem countLoop_segment {x : Nat} (hx : x < 2) {ps : List Nat} (nonnull : 0 ∉ ps)
    (more : List Slot) :
    countLoop x (ps.map some ++ some 0 :: more) = (countLoop (x + 1) more).map (· + ps.length) := by
  induction ps with
  | nil => simp [countLoop_some hx]
  | cons p ps ih =>
    have hp : p ≠ 0 := fun h => nonnull (h ▸ List.mem_cons_self p ps)
    simp [countLoop_some hx, hp, ih (fun h => nonnull (List.mem_cons_of_mem p h)), Option.map_map,
      Function.comp_def, Nat.add_assoc, Nat.add_comm 1]

theorem countLoop_layout {ts ss : List Nat} (parts : Partitions ts ss) (rest : List Slot) :
    countLoop 0 (layoutArray ts ss rest) = some (ts.length + ss.length) := by
  rw [layoutArray, countLoop_segment (x := 0) (by decide) parts.tasks_nonnull,
    countLoop_segment (x := 1) (by decide) parts.signals_nonnull]
  simp [countLoop_two, Nat.add_comm]

theorem copyLoop_segment (what part : Nat) {x : Nat} (hx : x < 2) {ps : List Nat}
    (nonnull : 0 ∉ ps) (add : Bool) (more : List Slot) :
    copyLoop what part add x (ps.map some ++ some 0 :: more) =
      (copyLoop what part (copySegment what add ps).2 (x + 1) more).map fun r =>
        ((copySegment what add ps).1 ++
          ((if (copySegment what add ps).2 ∧ part = x then [what] else []) ++ 0 :: r.1), r.2) := by
  induction ps generalizing add with
  | nil => simp [copyLoop_some what part hx, copySegment]
  | cons p ps ih =>
    have hp : p ≠ 0 := fun h => nonnull (h ▸ List.mem_cons_self p ps)
    have ih := ih (fun h => nonnull (List.mem_cons_of_mem p h))
    by_cases same : p = what
    · subst same
      cases add <;> simp [copyLoop_some _ part hx, copySegment, hp, ih, Option.map_map,
        Function.comp_def]
    · cases add <;> simp [copyLoop_some what part hx, copySegment, hp, same, ih, Option.map_map,
        Function.comp_def]

theorem copySegment_erase (what : Nat) {ps : List Nat} (nodup : ps.Nodup) :
    copySegment what false ps = (ps.erase what, false) := by
  rw [copySegment_false, nodup.erase_eq_filter]
  congr 2
  funext x
  by_cases h : x = what <;> simp [h]

theorem copySegment_of_not_mem {what : Nat} {ps : List Nat} (absent : what ∉ ps) (add : Bool) :
    copySegment what add ps = (ps, add) := by
  induction ps with
  | nil => rfl
  | cons v ps ih =>
    have hv : v ≠ what := fun h => absent (h ▸ List.mem_cons_self v ps)
    simp [copySegment, hv, ih (fun h => absent (List.mem_cons_of_mem v h))]

theorem copyLoop_change {ts ss : List Nat} (parts : Partitions ts ss) {what part : Nat}
    (hpart : part ≤ 1) (fresh : what ∉ (if part = 0 then ss else ts)) (add : Bool)
    (rest : List Slot) :
    copyLoop what part add 0 (layoutArray ts ss rest) =
      some ((change what part add (ts, ss)).1 ++ 0 :: ((change what part add (ts, ss)).2 ++ [0]),
        add && what ∉ (if part = 0 then ts else ss)) := by
  rw [layoutArray, copyLoop_segment (x := 0) what part (by decide) parts.tasks_nonnull,
    copyLoop_segment (x := 1) what part (by decide) parts.signals_nonnull]
  obtain rfl | rfl : part = 0 ∨ part = 1 := by omega
  · simp only [if_true] at fresh
    cases add
    · simp [copyLoop_two, change, copySegment_erase what parts.tasks_nodup, copySegment_of_not_mem fresh]
    · by_cases member : what ∈ ts <;>
        simp [copyLoop_two, change, appendNew, copySegment_true what parts.tasks_nodup, member,
          copySegment_of_not_mem fresh]
  · simp only [Nat.one_ne_zero, if_false] at fresh
    cases add
    · simp [copyLoop_two, change, copySegment_of_not_mem fresh, copySegment_erase what parts.signals_nodup]
    · by_cases member : what ∈ ss <;>
        simp [copyLoop_two, change, appendNew, copySegment_of_not_mem fresh,
          copySegment_true what parts.signals_nodup, member]

theorem collapse_layout {ts ss : List Nat} (tasks : 0 ∉ ts) (signals : 0 ∉ ss) (rest : List Slot) :
    ∃ s, collapse (layoutArray ts ss rest) = some s ∧ Layout s ts ss := by
  match ts, ss with
  | [], [] => exact ⟨_, by simp [collapse, layoutArray, readSlot], .empty⟩
  | [], x :: ss =>
    have hx : x ≠ 0 := fun h => signals (h ▸ List.mem_cons_self x ss)
    exact ⟨⟨0, some (layoutArray _ _ rest)⟩, by simp [collapse, layoutArray, readSlot, hx],
      .array _ _ _ (by simp)⟩
  | [t], [] =>
    have ht : t ≠ 0 := fun h => tasks (h ▸ List.mem_singleton_self t)
    exact ⟨_, by simp [collapse, layoutArray, readSlot, ht], .inline t⟩
  | [t], x :: ss =>
    have ht : t ≠ 0 := fun h => tasks (h ▸ List.mem_singleton_self t)
    have hx : x ≠ 0 := fun h => signals (h ▸ List.mem_cons_self x ss)
    exact ⟨⟨0, some (layoutArray _ _ rest)⟩, by simp [collapse, layoutArray, readSlot, ht, hx],
      .array _ _ _ (by simp)⟩
  | t₁ :: t₂ :: ts, ss =>
    have h₁ : t₁ ≠ 0 := fun h => tasks (h ▸ List.mem_cons_self t₁ _)
    have h₂ : t₂ ≠ 0 := fun h => tasks (h ▸ List.mem_cons_of_mem t₁ (List.mem_cons_self t₂ ts))
    exact ⟨⟨0, some (layoutArray _ _ rest)⟩, by simp [collapse, layoutArray, readSlot, h₁, h₂],
      .array _ _ _ (by simp)⟩

theorem source_layout {s : ActiveNotifier} {ts ss : List Nat} (layout : Layout s ts ss) :
    ∃ rest, s.listenerArray.getD [some s.listener1, some 0, some 0] = layoutArray ts ss rest := by
  cases layout with
  | empty => exact ⟨[some 0], rfl⟩
  | inline t => exact ⟨[], rfl⟩
  | array ts ss rest _ => exact ⟨rest, rfl⟩

theorem countListeners_layout {s : ActiveNotifier} {ts ss : List Nat} (layout : Layout s ts ss)
    (parts : Partitions ts ss) : countListeners s = some (ts.length + ss.length) := by
  cases layout with
  | empty => rfl
  | inline t =>
    have ht : t ≠ 0 := fun h => parts.tasks_nonnull (h ▸ List.mem_singleton_self t)
    simp [countListeners, ht]
  | array ts ss rest _ => simp [countListeners, countLoop_layout parts]

private theorem length_edit (what : Nat) (add : Bool) (l : List Nat) :
    (if add then appendNew l what else l.erase what).length ≤
      l.length + if add && decide (what ∉ l) then 1 else 0 := by
  cases add
  · simpa using List.length_erase_le what l
  · by_cases member : what ∈ l <;> simp [appendNew, member]

theorem length_change (what part : Nat) (add : Bool) (ts ss : List Nat) :
    (change what part add (ts, ss)).1.length + (change what part add (ts, ss)).2.length ≤
      ts.length + ss.length + if add && decide (what ∉ if part = 0 then ts else ss) then 1 else 0 := by
  by_cases hpart : part = 0
  · have := length_edit what add ts
    simp only [change, hpart, if_true]
    omega
  · have := length_edit what add ss
    simp only [change, hpart, if_false]
    omega

theorem written_le_assert (what part : Nat) (add : Bool) (ts ss : List Nat) :
    ((change what part add (ts, ss)).1 ++ 0 :: ((change what part add (ts, ss)).2 ++ [0])).length ≤
      ts.length + ss.length + 2 +
        if add && decide (what ∉ if part = 0 then ts else ss) then 1 else 0 := by
  have := length_change what part add ts ss
  simp only [List.length_append, List.length_cons, List.length_nil]
  omega

theorem written_le_alloc (what part : Nat) (add : Bool) (ts ss : List Nat) :
    ((change what part add (ts, ss)).1 ++ 0 :: ((change what part add (ts, ss)).2 ++ [0])).length ≤
      ts.length + ss.length + 2 + if add then 1 else 0 := by
  refine (written_le_assert what part add ts ss).trans (Nat.add_le_add_left ?_ _)
  generalize decide (what ∉ if part = 0 then ts else ss) = fresh
  cases add <;> cases fresh <;> decide

theorem Partitions.change {ts ss : List Nat} (parts : Partitions ts ss) {what : Nat} (hwhat : what ≠ 0)
    (part : Nat) (add : Bool) :
    Partitions (change what part add (ts, ss)).1 (change what part add (ts, ss)).2 := by
  have edit (l : List Nat) (nodup : l.Nodup) (nonnull : 0 ∉ l) :
      (if add then appendNew l what else l.erase what).Nodup ∧
        0 ∉ (if add then appendNew l what else l.erase what) := by
    cases add
    · simp only [Bool.false_eq_true, if_false]
      exact ⟨nodup.erase what, fun h => nonnull (List.mem_of_mem_erase h)⟩
    · simp only [if_true, appendNew]
      split_ifs with member
      · exact ⟨nodup, nonnull⟩
      · refine ⟨nodup.append (List.nodup_singleton what) (by simpa using member), ?_⟩
        simp [nonnull, Ne.symm hwhat]
  obtain ⟨tn, sn, t0, s0⟩ := parts
  by_cases hpart : part = 0
  · simp only [ClickNotifier.ActiveNotifier.change, hpart, if_true]
    exact ⟨(edit ts tn t0).1, sn, (edit ts tn t0).2, s0⟩
  · simp only [ClickNotifier.ActiveNotifier.change, hpart, if_false]
    exact ⟨tn, (edit ss sn s0).1, t0, (edit ss sn s0).2⟩

def succeed : Nat → Bool := fun _ => true

theorem listenerChange_layout {s : ActiveNotifier} {ts ss : List Nat} (layout : Layout s ts ss)
    (parts : Partitions ts ss) {what part : Nat} (hwhat : what ≠ 0) (hpart : part ≤ 1)
    (fresh : what ∉ (if part = 0 then ss else ts)) (add : Bool) :
    ∃ s', listenerChange succeed what part add s = some (0, s') ∧
      Layout s' (change what part add (ts, ss)).1 (change what part add (ts, ss)).2 := by
  by_cases common : s.listener1 = 0 ∧ s.listenerArray = none ∧ part = 0 ∧ add = true
  · obtain ⟨h1, h2, rfl, rfl⟩ := common
    cases layout with
    | empty => exact ⟨⟨what, none⟩, by simp [listenerChange], by simpa [change, appendNew] using .inline what⟩
    | inline t => exact absurd h1 fun h => parts.tasks_nonnull (h ▸ List.mem_singleton_self t)
    | array => cases h2
  · obtain ⟨rest, source⟩ := source_layout layout
    have parts' := parts.change hwhat part add
    obtain ⟨s', collapsed, layout'⟩ := collapse_layout parts'.tasks_nonnull parts'.signals_nonnull
      (List.replicate (ts.length + ss.length + 2 + (if add then 1 else 0) -
        ((change what part add (ts, ss)).1 ++ 0 :: ((change what part add (ts, ss)).2 ++ [0])).length) none)
    refine ⟨s', ?_, layout'⟩
    have slots (r : List Slot) :
        ((change what part add (ts, ss)).1 ++ 0 :: ((change what part add (ts, ss)).2 ++ [0])).map
          some ++ r = layoutArray (change what part add (ts, ss)).1 (change what part add (ts, ss)).2 r := by
      simp [layoutArray]
    simp only [listenerChange, common, if_false, countListeners_layout layout parts, succeed, source,
      copyLoop_change parts hpart fresh add rest, pure_bind, Option.pure_def, Option.bind_eq_bind,
      Option.some_bind, Bool.not_true, Bool.false_eq_true, and_false, guard,
      if_pos (written_le_alloc what part add ts ss), if_pos (written_le_assert what part add ts ss),
      slots, collapsed]

theorem tasksLoop_segment {ps : List Nat} (nonnull : 0 ∉ ps) (more : List Slot) :
    tasksLoop (ps.map some ++ some 0 :: more) = some ps := by
  induction ps with
  | nil => rfl
  | cons p ps ih =>
    have hp : p ≠ 0 := fun h => nonnull (h ▸ List.mem_cons_self p ps)
    simp [tasksLoop, hp, ih (fun h => nonnull (List.mem_cons_of_mem p h))]

theorem dropWhile_segment {ps : List Nat} (nonnull : 0 ∉ ps) (more : List Slot) :
    (ps.map some ++ some 0 :: more).dropWhile (· ≠ some 0) = some 0 :: more := by
  induction ps with
  | nil => simp
  | cons p ps ih =>
    have hp : p ≠ 0 := fun h => nonnull (h ▸ List.mem_cons_self p ps)
    rw [List.map_cons, List.cons_append, List.dropWhile_cons, if_pos (by simpa using hp)]
    exact ih (fun h => nonnull (List.mem_cons_of_mem p h))

theorem Layout.read {s : ActiveNotifier} {ts ss : List Nat} (layout : Layout s ts ss)
    (parts : Partitions ts ss) : listeners s = some ts ∧ dependentSignals s = some ss := by
  cases layout with
  | empty => exact ⟨rfl, rfl⟩
  | inline t =>
    have ht : t ≠ 0 := fun h => parts.tasks_nonnull (h ▸ List.mem_singleton_self t)
    simp [listeners, dependentSignals, ht]
  | array ts ss rest _ =>
    refine ⟨by simp [listeners, layoutArray, tasksLoop_segment parts.tasks_nonnull], ?_⟩
    simp only [dependentSignals, layoutArray]
    rw [dropWhile_segment parts.tasks_nonnull]
    exact tasksLoop_segment parts.signals_nonnull rest

/-- The canonical representation of tasks `ts` and signals `ss`: never both fields set, the
inline slot exactly for a lone task, both null exactly for nothing, and otherwise an array of
the tasks, a null, the signals and a null; no null and no repeated pointer in a partition. -/
def Canonical (s : ActiveNotifier) (ts ss : List Nat) : Prop :=
  Partitions ts ss ∧ (s.listener1 = 0 ∨ s.listenerArray = none) ∧
    (s.listener1 ≠ 0 ↔ ts.length = 1 ∧ ss = []) ∧
    (s.listener1 = 0 ∧ s.listenerArray = none ↔ ts = [] ∧ ss = []) ∧
    (¬(ts.length ≤ 1 ∧ ss = []) → ∃ rest, s.listenerArray = some (layoutArray ts ss rest))

theorem Layout.canonical {s : ActiveNotifier} {ts ss : List Nat} (layout : Layout s ts ss)
    (parts : Partitions ts ss) : Canonical s ts ss := by
  refine ⟨parts, ?_⟩
  cases layout with
  | empty => simp
  | inline t =>
    have ht : t ≠ 0 := fun h => parts.tasks_nonnull (h ▸ List.mem_singleton_self t)
    simp [ht]
  | array ts ss rest shared =>
    refine ⟨.inl rfl, ?_, ?_, fun _ => ⟨rest, rfl⟩⟩
    · simp only [ne_eq, not_true_eq_false, false_iff]
      exact fun ⟨one, noSignals⟩ => shared ⟨one.le, noSignals⟩
    · simp only [true_and, reduceCtorEq, false_iff]
      exact fun ⟨noTasks, noSignals⟩ => shared ⟨by simp [noTasks], noSignals⟩

private theorem listenerChange_of_count {s : ActiveNotifier} {alloc : Nat → Bool} {what part n : Nat}
    {add : Bool} (general : ¬(s.listener1 = 0 ∧ s.listenerArray = none ∧ part = 0 ∧ add = true))
    (count : countListeners s = some n) :
    listenerChange alloc what part add s =
      if alloc (n + 2 + if add then 1 else 0) = false ∨ (s.listenerArray = none ∧ alloc 3 = false)
      then some (-1, s) else listenerChange succeed what part add s := by
  simp only [listenerChange, general, count, succeed, if_false, pure_bind, Option.pure_def,
    Option.bind_eq_bind, Option.some_bind, Bool.not_true, Bool.false_eq_true, and_false,
    Bool.not_eq_true', ite_or]

/-- Whether `listener_change(what, where, add)` fails on `new[]` on the layout of tasks `ts` and
signals `ss`: past the inline case it asks for `n + 2 + add` slots and, with no array yet, for
three more. -/
def allocFails (alloc : Nat → Bool) (part : Nat) (add : Bool) (ts ss : List Nat) : Bool :=
  !decide (ts = [] ∧ ss = [] ∧ part = 0 ∧ add = true) &&
    (!alloc (ts.length + ss.length + 2 + if add then 1 else 0) ||
      decide (ts.length ≤ 1 ∧ ss = []) && !alloc 3)

theorem Layout.listenerArray_eq_none_iff {s : ActiveNotifier} {ts ss : List Nat}
    (layout : Layout s ts ss) : s.listenerArray = none ↔ ts.length ≤ 1 ∧ ss = [] := by
  cases layout with
  | empty => simp
  | inline t => simp
  | array ts ss rest shared => simpa using shared

theorem listenerChange_alloc {s : ActiveNotifier} {ts ss : List Nat} (layout : Layout s ts ss)
    (parts : Partitions ts ss) (alloc : Nat → Bool) (what part : Nat) (add : Bool) :
    listenerChange alloc what part add s =
      if allocFails alloc part add ts ss then some (-1, s)
      else listenerChange succeed what part add s := by
  have empty := (layout.canonical parts).2.2.2.1
  by_cases general : s.listener1 = 0 ∧ s.listenerArray = none ∧ part = 0 ∧ add = true
  · obtain ⟨noTasks, noSignals⟩ := empty.mp ⟨general.1, general.2.1⟩
    simp [listenerChange, general, allocFails, noTasks, noSignals]
  · have general' : ¬(ts = [] ∧ ss = [] ∧ part = 0 ∧ add = true) := fun ⟨t, x, p, a⟩ =>
      general ⟨(empty.mpr ⟨t, x⟩).1, (empty.mpr ⟨t, x⟩).2, p, a⟩
    rw [listenerChange_of_count general (countListeners_layout layout parts)]
    refine if_congr ?_ rfl rfl
    simp [allocFails, general', layout.listenerArray_eq_none_iff]

theorem copyLoop_layout {ts ss : List Nat} (parts : Partitions ts ss) (what part : Nat)
    (add : Bool) (rest : List Slot) :
    copyLoop what part add 0 (layoutArray ts ss rest) =
      some ((copySegment what add ts).1 ++
        ((if (copySegment what add ts).2 ∧ part = 0 then [what] else []) ++
          0 :: ((copySegment what (copySegment what add ts).2 ss).1 ++
            ((if (copySegment what (copySegment what add ts).2 ss).2 ∧ part = 1 then [what]
              else []) ++ [0]))),
        (copySegment what (copySegment what add ts).2 ss).2) := by
  rw [layoutArray, copyLoop_segment (x := 0) what part (by decide) parts.tasks_nonnull,
    copyLoop_segment (x := 1) what part (by decide) parts.signals_nonnull]
  simp [copyLoop_two]

theorem copySegment_length_le (what : Nat) (add : Bool) (ps : List Nat) :
    (copySegment what add ps).1.length ≤ ps.length := by
  induction ps generalizing add with
  | nil => exact le_refl 0
  | cons v ps ih =>
    by_cases keep : add ∨ v ≠ what
    · simp only [copySegment, keep, if_true, List.length_cons]
      exact Nat.succ_le_succ (ih _)
    · simp only [copySegment, keep, if_false, List.length_cons]
      exact (ih add).trans (Nat.le_succ _)

theorem copySegment_spec (what : Nat) (add : Bool) {ps : List Nat} (nodup : ps.Nodup) :
    (copySegment what add ps).2 = (add && decide (what ∉ ps)) ∧
      (copySegment what add ps).1.length ≤ ps.length ∧
      (add = true → (copySegment what add ps).1.length = ps.length) := by
  refine ⟨?_, copySegment_length_le what add ps, ?_⟩ <;> cases add
  all_goals simp [copySegment_false, copySegment_true what nodup]

theorem collapse_isSome_of_reads {ntos : List Slot} (read0 : (readSlot ntos 0).isSome)
    (read1 : (readSlot ntos 1).isSome)
    (read2 : readSlot ntos 0 ≠ some 0 → readSlot ntos 1 = some 0 → (readSlot ntos 2).isSome) :
    (collapse ntos).isSome := by
  obtain ⟨e0, read0⟩ := Option.isSome_iff_exists.mp read0
  obtain ⟨e1, read1⟩ := Option.isSome_iff_exists.mp read1
  unfold collapse
  rw [read0, read1]
  by_cases h0 : e0 = 0
  · simp only [Option.bind_eq_bind, Option.some_bind, h0, if_true]
    split_ifs <;> rfl
  · by_cases h1 : e1 = 0
    · obtain ⟨e2, read2⟩ := Option.isSome_iff_exists.mp
        (read2 (by rw [read0]; exact fun h => h0 (Option.some_injective _ h)) (by rw [read1, h1]))
      simp only [Option.bind_eq_bind, Option.some_bind, h0, h1, if_true, if_false, read2]
      split_ifs <;> rfl
    · simp only [Option.bind_eq_bind, Option.some_bind, h0, h1, if_false]
      rfl

theorem collapse_isSome (first second : List Nat) (k : Nat) :
    (collapse ((first ++ 0 :: (second ++ [0])).map some ++ List.replicate k none)).isSome := by
  have read {i : Nat} (h : i < first.length + second.length + 2) :
      (readSlot ((first ++ 0 :: (second ++ [0])).map some ++ List.replicate k none) i).isSome := by
    rw [readSlot, List.getElem?_append_left (by simp; omega), List.getElem?_map,
      List.getElem?_eq_getElem (by simp; omega)]
    rfl
  refine collapse_isSome_of_reads (read (by omega)) (read (by omega)) fun first0 _ => read ?_
  cases first with
  | nil => exact absurd (by simp [readSlot]) first0
  | cons x first => simp only [List.length_cons]; omega

theorem copyLoop_bounds {ts ss : List Nat} (parts : Partitions ts ss) (what part : Nat)
    (add : Bool) (rest : List Slot) :
    ∃ out add', copyLoop what part add 0 (layoutArray ts ss rest) = some (out, add') ∧
      (∀ k, (collapse (out.map some ++ List.replicate k none)).isSome) ∧
      out.length ≤ ts.length + ss.length + 2 + (if add then 1 else 0) ∧
      (out.length ≤ ts.length + ss.length + 2 + (if add' then 1 else 0) ↔
        ¬(part = 0 ∧ add = true ∧ what ∉ ts ∧ what ∈ ss)) := by
  refine ⟨_, _, copyLoop_layout parts what part add rest, fun k => ?_, ?_⟩
  · simpa only [List.append_assoc, List.cons_append] using collapse_isSome
      ((copySegment what add ts).1 ++ if (copySegment what add ts).2 ∧ part = 0 then [what] else [])
      ((copySegment what (copySegment what add ts).2 ss).1 ++
        if (copySegment what (copySegment what add ts).2 ss).2 ∧ part = 1 then [what] else []) k
  obtain ⟨flag₂, le₂, eq₂⟩ := copySegment_spec what (copySegment what add ts).2 parts.signals_nodup
  obtain ⟨flag₁, le₁, eq₁⟩ := copySegment_spec what add parts.tasks_nodup
  generalize copySegment what (copySegment what add ts).2 ss = second at *
  generalize copySegment what add ts = first at *
  obtain ⟨written₁, add₁⟩ := first
  obtain ⟨written₂, add₂⟩ := second
  dsimp only at *
  subst flag₂ flag₁
  simp only [List.length_append, List.length_cons, List.length_nil, apply_ite List.length,
    List.length_singleton]
  cases add
  · simp only [Bool.false_and, Bool.false_eq_true, false_and, if_false, and_false,
      not_false_eq_true, iff_true]
    omega
  · have copied₁ := eq₁ rfl
    by_cases hts : what ∈ ts
    · simp only [hts, not_true_eq_false, decide_False, Bool.and_false, Bool.false_and,
        Bool.false_eq_true, false_and, and_false, if_false, not_false_eq_true, iff_true]
      omega
    · have copied₂ := eq₂ (by simpa using hts)
      by_cases hss : what ∈ ss <;> by_cases hp : part = 0 <;>
        simp only [hts, hss, hp, not_false_eq_true, not_true_eq_false, decide_True, decide_False,
          Bool.and_self, Bool.and_true, Bool.and_false, true_and, and_true, and_false, false_and,
          if_true, if_false, Bool.false_eq_true, not_true, iff_false, iff_true, Nat.zero_ne_one] <;>
        (try split_ifs) <;> omega

@[simp] theorem mem_appendNew {t x : Nat} {l : List Nat} : t ∈ appendNew l x ↔ t ∈ l ∨ t = x := by
  unfold appendNew
  split_ifs with h
  · exact ⟨.inl, fun | .inl m => m | .inr rfl => h⟩
  · simp

private theorem mem_edit {t what : Nat} {add : Bool} {l : List Nat}
    (member : t ∈ if add then appendNew l what else l.erase what) : t ∈ l ∨ t = what := by
  cases add
  · exact .inl (List.mem_of_mem_erase member)
  · simpa using member

theorem mem_change_fst {t what part : Nat} {add : Bool} {ts ss : List Nat}
    (member : t ∈ (change what part add (ts, ss)).1) : t ∈ ts ∨ part = 0 ∧ t = what := by
  by_cases hpart : part = 0 <;> simp only [change, hpart, if_true, if_false] at member
  · exact (mem_edit member).imp_right fun same => ⟨hpart, same⟩
  · exact .inl member

theorem mem_change_snd {x what part : Nat} {add : Bool} {ts ss : List Nat}
    (member : x ∈ (change what part add (ts, ss)).2) : x ∈ ss ∨ part ≠ 0 ∧ x = what := by
  by_cases hpart : part = 0 <;> simp only [change, hpart, if_true, if_false] at member
  · exact .inl member
  · exact (mem_edit member).imp_right fun same => ⟨hpart, same⟩

end ClickNotifier.ActiveNotifier
