import ClickNotifier.ListenerLayout

/-!
# Runs of listener calls

Any sequence of `add_listener`, `remove_listener` and `add_dependent_signal` calls from a fresh
`ActiveNotifier` keeps the representation canonical and refines the reference semantics on a
pair of duplicate-free lists, provided the pointers are not null and no task pointer is a
signal pointer. From any laid-out list, whatever the allocator does, a call whose `new[]` fails
changes nothing and the others run as with every allocation succeeding, so a run refines the
reference semantics of the calls that get past their allocations. Adding a task twice registers
it once, and one `remove_listener` then leaves none. Without the separation the assertion of
`listener_change` can fail: it holds exactly unless a dependent signal is added as a task.
-/

namespace ClickNotifier.ActiveNotifier

/-- The public calls that change a listener list. -/
inductive ListenerOp
  | addListener (task : Nat)
  | removeListener (task : Nat)
  | addDependentSignal (signal : Nat)
  deriving DecidableEq, Repr

namespace ListenerOp

def what : ListenerOp → Nat
  | addListener t | removeListener t | addDependentSignal t => t

def part : ListenerOp → Nat
  | addListener _ | removeListener _ => 0
  | addDependentSignal _ => 1

def add : ListenerOp → Bool
  | addListener _ | addDependentSignal _ => true
  | removeListener _ => false

def apply (alloc : Nat → Bool) : ListenerOp → ActiveNotifier → Option ActiveNotifier
  | addListener t, s => (ActiveNotifier.addListener alloc t s).map Prod.snd
  | removeListener t, s => ActiveNotifier.removeListener alloc t s
  | addDependentSignal x, s => (ActiveNotifier.addDependentSignal alloc x s).map Prod.snd

theorem apply_eq (alloc : Nat → Bool) (o : ListenerOp) (s : ActiveNotifier) :
    o.apply alloc s = (listenerChange alloc o.what o.part o.add s).map Prod.snd := by
  cases o <;> rfl

/-- The reference semantics: a task is appended unless present and deleted by identity, a
signal is appended unless present, and the other list is left alone. -/
def reference : ListenerOp → List Nat × List Nat → List Nat × List Nat
  | addListener t, (ts, ss) => (if t ∈ ts then ts else ts ++ [t], ss)
  | removeListener t, (ts, ss) => (ts.erase t, ss)
  | addDependentSignal x, (ts, ss) => (ts, if x ∈ ss then ss else ss ++ [x])

theorem reference_eq (o : ListenerOp) (lists : List Nat × List Nat) :
    o.reference lists = change o.what o.part o.add lists := by
  cases o <;> rfl

theorem part_le_one (o : ListenerOp) : o.part ≤ 1 := by
  cases o <;> simp [part]

end ListenerOp

open ListenerOp

/-- The listener list after a sequence of calls, or `none` where the code faults. -/
def run (alloc : Nat → Bool) : ActiveNotifier → List ListenerOp → Option ActiveNotifier
  | s, [] => some s
  | s, o :: ops => (o.apply alloc s).bind (run alloc · ops)

def referenceRun (lists : List Nat × List Nat) (ops : List ListenerOp) : List Nat × List Nat :=
  ops.foldl (fun lists o => o.reference lists) lists

/-- No task pointer of the calls is also a signal pointer of the calls. -/
def Separated (ops : List ListenerOp) : Prop :=
  ∀ o ∈ ops, ∀ o' ∈ ops, o.part = 0 → o'.part = 1 → o.what ≠ o'.what

/-- What a run from tasks `ts` and signals `ss` needs of its calls: non-null pointers, no task
pointer of the calls a signal pointer of the calls or of `ss`, and no signal pointer of the calls
a task of `ts`. -/
structure Fits (ts ss : List Nat) (ops : List ListenerOp) : Prop where
  nonnull : ∀ o ∈ ops, o.what ≠ 0
  separated : Separated ops
  tasksApart : ∀ t ∈ ts, ∀ o ∈ ops, o.part = 1 → o.what ≠ t
  signalsApart : ∀ x ∈ ss, ∀ o ∈ ops, o.part = 0 → o.what ≠ x

namespace Fits

variable {ts ss : List Nat} {o : ListenerOp} {ops : List ListenerOp}

theorem tail (fits : Fits ts ss (o :: ops)) : Fits ts ss ops :=
  have later {o'} (m : o' ∈ ops) : o' ∈ o :: ops := List.mem_cons_of_mem o m
  ⟨fun o' m => fits.nonnull o' (later m), fun a ma b mb => fits.separated a (later ma) b (later mb),
    fun t m o' m' => fits.tasksApart t m o' (later m'),
    fun x m o' m' => fits.signalsApart x m o' (later m')⟩

theorem fresh (fits : Fits ts ss (o :: ops)) : o.what ∉ (if o.part = 0 then ss else ts) := by
  have here := List.mem_cons_self o ops
  split_ifs with hpart
  · exact fun m => fits.signalsApart _ m o here hpart rfl
  · exact fun m => fits.tasksApart _ m o here (by have := o.part_le_one; omega) rfl

theorem change (fits : Fits ts ss (o :: ops)) :
    Fits (ActiveNotifier.change o.what o.part o.add (ts, ss)).1
      (ActiveNotifier.change o.what o.part o.add (ts, ss)).2 ops := by
  have here := List.mem_cons_self o ops
  have later {o'} (m : o' ∈ ops) : o' ∈ o :: ops := List.mem_cons_of_mem o m
  refine ⟨fits.tail.nonnull, fits.tail.separated, fun t m o' m' h1 => ?_, fun x m o' m' h0 => ?_⟩
  · rcases mem_change_fst m with old | ⟨h0, rfl⟩
    exacts [fits.tasksApart _ old o' (later m') h1, (fits.separated o here o' (later m') h0 h1).symm]
  · rcases mem_change_snd m with old | ⟨h1, rfl⟩
    exacts [fits.signalsApart _ old o' (later m') h0,
      fits.separated o' (later m') o here h0 (by have := o.part_le_one; omega)]

end Fits

theorem run_layout (ops : List ListenerOp) {s : ActiveNotifier} {ts ss : List Nat}
    (layout : Layout s ts ss) (parts : Partitions ts ss) (nonnull : ∀ o ∈ ops, o.what ≠ 0)
    (separated : Separated ops)
    (tasksApart : ∀ t ∈ ts, ∀ o ∈ ops, o.part = 1 → o.what ≠ t)
    (signalsApart : ∀ x ∈ ss, ∀ o ∈ ops, o.part = 0 → o.what ≠ x) :
    ∃ s', run succeed s ops = some s' ∧
      Layout s' (referenceRun (ts, ss) ops).1 (referenceRun (ts, ss) ops).2 ∧
      Partitions (referenceRun (ts, ss) ops).1 (referenceRun (ts, ss) ops).2 := by
  induction ops generalizing s ts ss with
  | nil => exact ⟨s, rfl, layout, parts⟩
  | cons o ops ih =>
    have fits : Fits ts ss (o :: ops) := ⟨nonnull, separated, tasksApart, signalsApart⟩
    obtain ⟨s₁, step, layout₁⟩ := listenerChange_layout layout parts
      (nonnull o (List.mem_cons_self o ops)) o.part_le_one fits.fresh o.add
    obtain ⟨nonnull', separated', tasksApart', signalsApart'⟩ := fits.change
    obtain ⟨s', steps, rest⟩ := ih layout₁ (parts.change (nonnull o (List.mem_cons_self o ops))
      o.part o.add) nonnull' separated' tasksApart' signalsApart'
    refine ⟨s', ?_, ?_⟩
    · simp [run, apply_eq, step, steps]
    · simpa [referenceRun, List.foldl_cons, reference_eq] using rest

/-- Any run of non-null calls that keeps task pointers apart from signal pointers, with every
allocation succeeding, refines the reference semantics: `listeners()` reads the reference task
list and the second partition holds the reference signal list, both duplicate-free. -/
theorem listener_run_refines_reference (ops : List ListenerOp) (nonnull : ∀ o ∈ ops, o.what ≠ 0)
    (separated : Separated ops) :
    ∃ s, run succeed init ops = some s ∧
      listeners s = some (referenceRun ([], []) ops).1 ∧
      dependentSignals s = some (referenceRun ([], []) ops).2 ∧
      (referenceRun ([], []) ops).1.Nodup ∧ (referenceRun ([], []) ops).2.Nodup := by
  obtain ⟨s, ran, layout, parts⟩ := run_layout ops .empty ⟨.nil, .nil, by simp, by simp⟩ nonnull
    separated (by simp) (by simp)
  exact ⟨s, ran, (layout.read parts).1, (layout.read parts).2, parts.tasks_nodup,
    parts.signals_nodup⟩

theorem listener_run_refines_reference_example :
    let ops : List ListenerOp :=
      [.addListener 5, .addDependentSignal 9, .addListener 7, .removeListener 5]
    (∀ o ∈ ops, o.what ≠ 0) ∧ Separated ops ∧
      ∃ s, run succeed init ops = some s ∧
        listeners s = some (referenceRun ([], []) ops).1 ∧
        dependentSignals s = some (referenceRun ([], []) ops).2 ∧
        (referenceRun ([], []) ops).1.Nodup ∧ (referenceRun ([], []) ops).2.Nodup := by
  intro ops
  have nonnull : ∀ o ∈ ops, o.what ≠ 0 := by decide
  have separated : Separated ops := by unfold Separated; decide
  exact ⟨nonnull, separated, listener_run_refines_reference ops nonnull separated⟩

/-- Every state such a run reaches is canonical. -/
theorem listener_run_canonical (ops : List ListenerOp) (nonnull : ∀ o ∈ ops, o.what ≠ 0)
    (separated : Separated ops) :
    ∃ s, run succeed init ops = some s ∧
      Canonical s (referenceRun ([], []) ops).1 (referenceRun ([], []) ops).2 := by
  obtain ⟨s, ran, layout, parts⟩ := run_layout ops .empty ⟨.nil, .nil, by simp, by simp⟩ nonnull
    separated (by simp) (by simp)
  exact ⟨s, ran, layout.canonical parts⟩

theorem listener_run_canonical_example :
    let ops : List ListenerOp := [.addListener 5, .addListener 7, .removeListener 7]
    (∀ o ∈ ops, o.what ≠ 0) ∧ Separated ops ∧
      ∃ s, run succeed init ops = some s ∧
        Canonical s (referenceRun ([], []) ops).1 (referenceRun ([], []) ops).2 := by
  intro ops
  have nonnull : ∀ o ∈ ops, o.what ≠ 0 := by decide
  have separated : Separated ops := by unfold Separated; decide
  exact ⟨nonnull, separated, listener_run_canonical ops nonnull separated⟩

private theorem fits_task {ts ss : List Nat} {o : ListenerOp} (task : o.part = 0)
    (nonnull : o.what ≠ 0) (notSignal : o.what ∉ ss) : Fits ts ss [o] := by
  refine ⟨?_, ?_, ?_, ?_⟩ <;> simp only [Separated, List.mem_singleton, forall_eq, task]
  exacts [nonnull, fun _ one => absurd one (by decide), fun _ _ one => absurd one (by decide),
    fun x m _ same => notSignal (same ▸ m)]

private theorem run_fits {ops : List ListenerOp} {s : ActiveNotifier} {ts ss : List Nat}
    (layout : Layout s ts ss) (parts : Partitions ts ss) (fits : Fits ts ss ops) :
    ∃ s', run succeed s ops = some s' ∧
      Layout s' (referenceRun (ts, ss) ops).1 (referenceRun (ts, ss) ops).2 ∧
      Partitions (referenceRun (ts, ss) ops).1 (referenceRun (ts, ss) ops).2 :=
  run_layout ops layout parts fits.1 fits.2 fits.3 fits.4

/-- From any laid-out list, `add_listener(t)` registers `t` once whether or not it was there, a
second `add_listener(t)` changes nothing, and a `remove_listener(t)` after them leaves no
registration of `t` and every other entry in place. -/
theorem addListener_idempotent {s : ActiveNotifier} {ts ss : List Nat} (layout : Layout s ts ss)
    (parts : Partitions ts ss) {t : Nat} (nonnull : t ≠ 0) (notSignal : t ∉ ss) :
    ∃ s₁ s₂ s₃, run succeed s [.addListener t] = some s₁ ∧
      run succeed s₁ [.addListener t] = some s₂ ∧ run succeed s₂ [.removeListener t] = some s₃ ∧
      Layout s₁ (appendNew ts t) ss ∧ Layout s₂ (appendNew ts t) ss ∧ Layout s₃ (ts.erase t) ss := by
  have add (ts' : List Nat) : Fits ts' ss [.addListener t] := fits_task rfl nonnull notSignal
  have first : referenceRun (ts, ss) [.addListener t] = (appendNew ts t, ss) := rfl
  have again : referenceRun (appendNew ts t, ss) [.addListener t] = (appendNew ts t, ss) := by
    show (if t ∈ appendNew ts t then _ else _, ss) = _
    rw [if_pos (mem_appendNew.mpr (.inr rfl))]
  have removed : referenceRun (appendNew ts t, ss) [.removeListener t] = (ts.erase t, ss) := by
    show ((appendNew ts t).erase t, ss) = _
    unfold appendNew
    split_ifs with member
    · rfl
    · rw [List.erase_append_right _ member, List.erase_of_not_mem member]; simp
  obtain ⟨s₁, run₁, layout₁, parts₁⟩ := run_fits layout parts (add ts)
  rw [first] at layout₁ parts₁
  obtain ⟨s₂, run₂, layout₂, parts₂⟩ := run_fits layout₁ parts₁ (add _)
  rw [again] at layout₂ parts₂
  obtain ⟨s₃, run₃, layout₃, -⟩ := run_fits layout₂ parts₂
    (fits_task (o := .removeListener t) rfl nonnull notSignal)
  rw [removed] at layout₃
  exact ⟨s₁, s₂, s₃, run₁, run₂, run₃, layout₁, layout₂, layout₃⟩

theorem addListener_idempotent_example :
    (5 : Nat) ≠ 0 ∧ 5 ∉ ([] : List Nat) ∧
      ∃ s₁ s₂ s₃, run succeed ⟨3, none⟩ [.addListener 5] = some s₁ ∧
        run succeed s₁ [.addListener 5] = some s₂ ∧ run succeed s₂ [.removeListener 5] = some s₃ ∧
        Layout s₁ (appendNew [3] 5) [] ∧ Layout s₂ (appendNew [3] 5) [] ∧
        Layout s₃ ([3].erase 5) [] :=
  ⟨by decide, by simp, addListener_idempotent (.inline 3)
    ⟨List.nodup_singleton 3, .nil, by simp, by simp⟩ (by decide) (by simp)⟩

/-- On any laid-out state, whatever the call: the counting and copy loops stop at the second
null whatever follows it, the copy writes at most the `n + 2 + add` entries allocated, and the
collapse test reads only written entries. The assertion of line 277 holds, and the call
returns, exactly unless it adds as a task a pointer that is a dependent signal and not a
task. -/
theorem listenerChange_in_bounds {s : ActiveNotifier} {ts ss : List Nat} (layout : Layout s ts ss)
    (parts : Partitions ts ss) (what part : Nat) (add : Bool) :
    countListeners s = some (ts.length + ss.length) ∧
    (∃ rest, s.listenerArray.getD [some s.listener1, some 0, some 0] = layoutArray ts ss rest) ∧
    (∀ rest, countLoop 0 (layoutArray ts ss rest) = some (ts.length + ss.length) ∧
      ∃ out add', copyLoop what part add 0 (layoutArray ts ss rest) = some (out, add') ∧
        (∀ k, (collapse (out.map some ++ List.replicate k none)).isSome) ∧
        out.length ≤ ts.length + ss.length + 2 + (if add then 1 else 0) ∧
        (out.length ≤ ts.length + ss.length + 2 + (if add' then 1 else 0) ↔
          ¬(part = 0 ∧ add = true ∧ what ∉ ts ∧ what ∈ ss))) ∧
    ((listenerChange succeed what part add s).isSome ↔
      ¬(part = 0 ∧ add = true ∧ what ∉ ts ∧ what ∈ ss)) := by
  refine ⟨countListeners_layout layout parts, source_layout layout,
    fun rest => ⟨countLoop_layout parts rest, copyLoop_bounds parts what part add rest⟩, ?_⟩
  by_cases general : s.listener1 = 0 ∧ s.listenerArray = none ∧ part = 0 ∧ add = true
  · have noSignals := ((layout.canonical parts).2.2.2.1.mp ⟨general.1, general.2.1⟩).2
    simp [listenerChange, general, noSignals]
  · obtain ⟨rest, source⟩ := source_layout layout
    obtain ⟨out, add', copied, collapsed, allocated, asserted⟩ :=
      copyLoop_bounds parts what part add rest
    obtain ⟨s', collapsed'⟩ := Option.isSome_iff_exists.mp
      (collapsed ((ts.length + ss.length + 2 + if add then 1 else 0) - out.length))
    rw [← asserted]
    simp only [listenerChange, general, if_false, countListeners_layout layout parts, succeed, source,
      copied, guard, allocated, collapsed', Option.bind_eq_bind, Option.some_bind, Option.pure_def,
      Bool.not_true, Bool.false_eq_true, and_false, if_true]
    by_cases within : out.length ≤ ts.length + ss.length + 2 + (if add' then 1 else 0) <;>
      simp [within, failure]

theorem listenerChange_in_bounds_example :
    let s : ActiveNotifier := ⟨0, some (layoutArray [5] [9] [])⟩
    Layout s [5] [9] ∧ Partitions [5] [9] ∧
      countListeners s = some ([5].length + [9].length) ∧
      (∃ rest, s.listenerArray.getD [some s.listener1, some 0, some 0] = layoutArray [5] [9] rest) ∧
      (∀ rest, countLoop 0 (layoutArray [5] [9] rest) = some ([5].length + [9].length) ∧
        ∃ out add', copyLoop 9 0 true 0 (layoutArray [5] [9] rest) = some (out, add') ∧
          (∀ k, (collapse (out.map some ++ List.replicate k none)).isSome) ∧
          out.length ≤ [5].length + [9].length + 2 + (if true then 1 else 0) ∧
          (out.length ≤ [5].length + [9].length + 2 + (if add' then 1 else 0) ↔
            ¬(0 = 0 ∧ true = true ∧ 9 ∉ [5] ∧ 9 ∈ [9]))) ∧
      ((listenerChange succeed 9 0 true s).isSome ↔ ¬(0 = 0 ∧ true = true ∧ 9 ∉ [5] ∧ 9 ∈ [9])) := by
  intro s
  have layout : Layout s [5] [9] := .array [5] [9] [] (by decide)
  have parts : Partitions [5] [9] := ⟨by simp, by simp, by simp, by simp⟩
  exact ⟨layout, parts, listenerChange_in_bounds layout parts 9 0 true⟩

end ClickNotifier.ActiveNotifier
