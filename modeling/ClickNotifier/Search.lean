import ClickNotifier.Filter

/-!
# Upstream and downstream notifier searches

`Notifier::upstream_empty_signal` and `Notifier::downstream_full_signal` differ only in the
notifier name and the direction of the walk, so both are one search over a `Walk`. The signal
returned is copied from the filter after the first pass: a second pass, run when the first met
a `SEARCH_CONTINUE_WAKE` notifier, only collects more notifiers to register the task on.
-/

namespace ClickNotifier

/-- Modelled from the spec: the two calls of `Router::upstream_elements` or
`downstream_elements`, which are not under src/. Each presents elements to `check_match` in some
order and returns a code: `ok` for the first call, `secondOk` for the second. -/
structure Walk where
  ok : Int
  first : List Visit
  second : List Visit
  secondOk : Int

namespace Notifier

open NotifierSignal NotifierElementFilter

/-- `Notifier::add_listener` and `add_dependent_signal`: `listener_change(what, where, true)`
on an `ActiveNotifier`, a no-op on a plain notifier. The result code is dropped, as the search
drops it. -/
def listenerChange (alloc : Nat → Bool) (what part : Nat) (n : Notifier) : Option Notifier :=
  match n.listenerList with
  | none => some n
  | some l => (l.listenerChange alloc what part true).map fun r => { n with listenerList := some r.2 }

/-- `Notifier::add_listener(task)`. -/
def addListener (alloc : Nat → Bool) (task : Nat) : Notifier → Option Notifier :=
  listenerChange alloc task 0

/-- `Notifier::add_dependent_signal(signal)`. -/
def addDependentSignal (alloc : Nat → Bool) (signal : Nat) : Notifier → Option Notifier :=
  listenerChange alloc signal 1

section Search

variable {Router : Type} (newNotifierSignal : Router → Option (NotifierSignal × Router))

/-- One of the loops of lines 453-458: `op` on every notifier found, in order. -/
def forNotifiers (op : Notifier → Option Notifier) : List Nat → World Router → Option (World Router)
  | [], w => some w
  | n :: ns, w => (op (w.notifier n)).bind fun n' =>
      forNotifiers op ns { w with notifier := Function.update w.notifier n n' }

/-- Lines 453-458, one pointer: `op` with it on every notifier found, unless it is null. -/
def registerAll (op : Nat → Notifier → Option Notifier) :
    Option Nat → List Nat → World Router → Option (World Router)
  | some a, ns, w => forNotifiers (op a) ns w
  | none, _, w => some w

/-- Line 441: the second pass runs when the first succeeded with an initialized signal and met
a `SEARCH_CONTINUE_WAKE` notifier. -/
def secondPass (name : String) (walk : Walk) (w : World Router) : Bool :=
  let first := checkRun newNotifierSignal (init name) w (walk.first.map (false, ·))
  decide (0 ≤ walk.ok) && !first.1.signal.equal uninitialized && first.1.needPass2

/-- Lines 436-446: the signal copied after the first pass, and the filter and configuration
after the last pass. -/
def searchPasses (name : String) (walk : Walk) (w : World Router) :
    NotifierSignal × NotifierElementFilter × World Router :=
  let first := checkRun newNotifierSignal (init name) w (walk.first.map (false, ·))
  if secondPass newNotifierSignal name walk w then
    let second :=
      checkRun newNotifierSignal { first.1 with pass2 := true } first.2.1 (walk.second.map (true, ·))
    (first.1.signal, second.1, second.2.1)
  else (first.1.signal, first.1, first.2.1)

/-- The code `ok` holds at line 450: the second call's when it ran, which overwrites the first. -/
def searchOk (name : String) (walk : Walk) (w : World Router) : Int :=
  if secondPass newNotifierSignal name walk w then walk.secondOk else walk.ok

/-- The body shared by `upstream_empty_signal` and `downstream_full_signal`: the signal
returned, and the configuration after registering `task` and the dependent signal pointer on
every notifier found (`none` where a registration faults). -/
def signalSearch (alloc : Nat → Bool) (name : String) (walk : Walk) (w : World Router)
    (task dependent : Option Nat) : NotifierSignal × Option (World Router) :=
  let passes := searchPasses newNotifierSignal name walk w
  let notifiers := passes.2.1.notifiers
  if searchOk newNotifierSignal name walk w < 0 ∨ passes.1.equal uninitialized then
    (uninitialized, some passes.2.2)
  else
    (passes.1, (registerAll (addListener alloc) task notifiers passes.2.2).bind
      (registerAll (addDependentSignal alloc) dependent notifiers))

/-- `Notifier::upstream_empty_signal(e, port, task, dependent_notifier)`, over the upstream
walk from `e`'s input `port`; `dependent` is `&dependent_notifier->_signal`. -/
def upstreamEmptySignal (alloc : Nat → Bool) (walk : Walk) (w : World Router)
    (task dependent : Option Nat) : NotifierSignal × Option (World Router) :=
  signalSearch newNotifierSignal alloc emptyNotifier walk w task dependent

/-- `Notifier::downstream_full_signal(e, port, task, dependent_notifier)`, over the downstream
walk from `e`'s output `port`. -/
def downstreamFullSignal (alloc : Nat → Bool) (walk : Walk) (w : World Router)
    (task dependent : Option Nat) : NotifierSignal × Option (World Router) :=
  signalSearch newNotifierSignal alloc fullNotifier walk w task dependent

theorem signalSearch_fst (alloc : Nat → Bool) (name : String) (walk : Walk) (w : World Router)
    (task dependent : Option Nat) :
    (signalSearch newNotifierSignal alloc name walk w task dependent).1 =
      if searchOk newNotifierSignal name walk w < 0 ∨
          (checkRun newNotifierSignal (init name) w (walk.first.map (false, ·))).1.signal.equal
            uninitialized
      then uninitialized
      else (checkRun newNotifierSignal (init name) w (walk.first.map (false, ·))).1.signal := by
  have first : (searchPasses newNotifierSignal name walk w).1 =
      (checkRun newNotifierSignal (init name) w (walk.first.map (false, ·))).1.signal := by
    simp only [searchPasses]; split_ifs <;> rfl
  simp only [signalSearch, first]
  split_ifs <;> rfl

/-- The signal a search returns is the one accumulated over the first pass, or the
uninitialized signal when the last walk call failed or that signal is uninitialized: busy once the first
pass met a back-pressure boundary and, when initialized, active whenever a signal combined in
the first pass is active. -/
theorem signalSearch_sound (words : SignalWords) (alloc : Nat → Bool) (name : String)
    (walk : Walk) (w : World Router) (task dependent : Option Nat) :
    let first := checkRun newNotifierSignal (init name) w (walk.first.map (false, ·))
    let signal := (signalSearch newNotifierSignal alloc name walk w task dependent).1
    (signal = if searchOk newNotifierSignal name walk w < 0 ∨ first.1.signal.equal uninitialized
      then uninitialized else first.1.signal) ∧
    (0 ≤ searchOk newNotifierSignal name walk w → (∃ v ∈ walk.first, TakesBackPressure name v) →
      signal = busySignal) ∧
    (signal.initialized → ∀ c ∈ first.2.2, c.active (staticInitialize words) →
      signal.active (staticInitialize words)) := by
  dsimp only
  rw [signalSearch_fst]
  refine ⟨rfl, fun ok ⟨v, visited, taken⟩ => ?_, fun initialized c combined active => ?_⟩
  · have distinct : busySignal.equal uninitialized = false := by decide
    rw [checkRun_busy newNotifierSignal _ w _ (.inr ⟨(false, v), List.mem_map_of_mem _ visited, taken⟩)]
    simp [not_lt.mpr ok, distinct]
  · split_ifs at initialized ⊢
    · exact absurd initialized (by decide)
    · exact (checkRun_active newNotifierSignal words _ w _).2 c combined active

/-- A wake notifier `1` in front of an `ActiveNotifier` `2` whose signal is active, and a
push/pull boundary: the second pass finds `2` and crosses the boundary, and task `77` becomes a
listener of `2`, but the signal returned is the inactive one the first pass accumulated from `1`
alone, and not busy. -/
theorem upstreamEmptySignal_omits_second_pass :
    let notifierElement (n : Nat) : Element :=
      ⟨fun name => if name = emptyNotifier then some n else none, fun _ _ => false,
        fun _ _ => false⟩
    let wake : Visit := ⟨notifierElement 1, false, 0⟩
    let boundary : Visit := ⟨⟨fun _ => none, fun _ _ => true, fun _ _ => false⟩, false, 0⟩
    let walk : Walk := ⟨0, [wake], [wake, ⟨notifierElement 2, false, 0⟩, boundary], 0⟩
    let w : World Unit := ⟨fun n => ⟨⟨.word 0, BitVec.ofNat 32 n⟩,
      if n = 1 then .searchContinueWake else .searchStop,
      if n = 2 then some ActiveNotifier.init else none⟩, ()⟩
    let words : SignalWords := fun _ => 2
    let search := upstreamEmptySignal (fun _ => none) (fun _ => true) walk w (some 77) none
    TakesBackPressure emptyNotifier boundary ∧ search.1 ≠ busySignal ∧
      (search.2.map fun w' => (w'.notifier 2).listenerList) = some (some ⟨77, none⟩) ∧
      (w.notifier 2).signal.active (staticInitialize words) ∧
      ¬ search.1.active (staticInitialize words) := by
  decide

end Search

end Notifier

end ClickNotifier
