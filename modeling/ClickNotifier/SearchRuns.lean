import ClickNotifier.Registration

/-!
# Runs of searches

The elements of a configuration call `upstream_empty_signal` and `downstream_full_signal` one
after another, each search on the configuration the searches before it left. Over any such run,
whatever the allocator does, no registration faults, every listener list stays sound and
nothing registered is lost; with allocations succeeding, what a search registers is still
registered at the end of the run, whatever searches follow it.
-/

namespace ClickNotifier.Notifier

open ActiveNotifier NotifierElementFilter

/-- A call of `upstream_empty_signal` (`upstream`) or `downstream_full_signal` made by an
element: the walk from its port, its task and its dependent signal pointer. -/
structure SearchCall where
  upstream : Bool
  walk : Walk
  task : Option Nat
  dependent : Option Nat

def SearchCall.name (c : SearchCall) : String := if c.upstream then emptyNotifier else fullNotifier

section Runs

variable {Router : Type} (newNotifierSignal : Router → Option (NotifierSignal × Router))
  (alloc : Nat → Bool)

def SearchCall.apply (c : SearchCall) (w : World Router) : NotifierSignal × Option (World Router) :=
  if c.upstream then upstreamEmptySignal newNotifierSignal alloc c.walk w c.task c.dependent
  else downstreamFullSignal newNotifierSignal alloc c.walk w c.task c.dependent

theorem SearchCall.apply_eq (c : SearchCall) (w : World Router) :
    c.apply newNotifierSignal alloc w =
      signalSearch newNotifierSignal alloc c.name c.walk w c.task c.dependent := by
  unfold SearchCall.apply SearchCall.name
  split <;> rfl

/-- The configuration after a sequence of searches, or `none` where a registration faults. -/
def searchRun : World Router → List SearchCall → Option (World Router)
  | w, [] => some w
  | w, c :: cs => (c.apply newNotifierSignal alloc w).2.bind (searchRun · cs)

theorem searchRun_append (w : World Router) (before after : List SearchCall) :
    searchRun newNotifierSignal alloc w (before ++ after) =
      (searchRun newNotifierSignal alloc w before).bind (searchRun newNotifierSignal alloc · after) := by
  induction before generalizing w with
  | nil => rfl
  | cons c before ih =>
    simp only [List.cons_append, searchRun, Option.bind_assoc]
    exact congrArg _ (funext ih)

/-- The calls register non-null pointers, tasks on the task side and signals on the other. -/
def Registers (isTask : Nat → Prop) (calls : List SearchCall) : Prop :=
  ∀ c ∈ calls, (∀ t ∈ c.task, t ≠ 0 ∧ isTask t) ∧ ∀ s ∈ c.dependent, s ≠ 0 ∧ ¬ isTask s

variable (isTask : Nat → Prop)

def Kept (w w' : World Router) : Prop :=
  (∀ n, (w'.notifier n).Sound isTask) ∧ ∀ n, (w.notifier n).Grows (w'.notifier n)

theorem Kept.refl {w : World Router} (sound : ∀ n, (w.notifier n).Sound isTask) : Kept isTask w w :=
  ⟨sound, fun _ => .refl _⟩

theorem SearchCall.apply_kept (c : SearchCall) (tasks : ∀ t ∈ c.task, t ≠ 0 ∧ isTask t)
    (signals : ∀ s ∈ c.dependent, s ≠ 0 ∧ ¬ isTask s) {w₀ w : World Router} (kept : Kept isTask w₀ w) :
    ∃ w', (c.apply newNotifierSignal alloc w).2 = some w' ∧ Kept isTask w₀ w' := by
  obtain ⟨w', searched, sound', grows'⟩ := signalSearch_registration_total isTask newNotifierSignal
    alloc c.name c.walk w c.task c.dependent kept.1 tasks signals
  exact ⟨w', by rw [SearchCall.apply_eq]; exact searched, sound', fun n => (kept.2 n).trans (grows' n)⟩

theorem searchRun_kept (calls : List SearchCall) (registers : Registers isTask calls)
    {w₀ w : World Router} (kept : Kept isTask w₀ w) :
    ∃ w', searchRun newNotifierSignal alloc w calls = some w' ∧ Kept isTask w₀ w' := by
  induction calls generalizing w with
  | nil => exact ⟨w, rfl, kept⟩
  | cons c calls ih =>
    obtain ⟨tasks, signals⟩ := registers c (List.mem_cons_self c calls)
    obtain ⟨w₁, searched, kept₁⟩ := c.apply_kept newNotifierSignal alloc isTask tasks signals kept
    obtain ⟨w', rest, kept'⟩ := ih (fun c' member => registers c' (List.mem_cons_of_mem c member)) kept₁
    exact ⟨w', by rw [searchRun, searched, Option.some_bind, rest], kept'⟩

end Runs

section Persistence

variable {Router : Type} (newNotifierSignal : Router → Option (NotifierSignal × Router))
  (isTask : Nat → Prop)

/-- With allocations succeeding, whatever searches come before and after a search `c` in a run
from a sound configuration, when the signal `c` returns is initialized, its task and dependent
signal are still registered at the end of the run on every notifier `c` found. -/
theorem searchRun_registration_persists (before after : List SearchCall) (c : SearchCall)
    (w : World Router) (sound : ∀ n, (w.notifier n).Sound isTask)
    (registers : Registers isTask (before ++ c :: after)) :
    ∃ w₁ w', searchRun newNotifierSignal succeed w before = some w₁ ∧
      searchRun newNotifierSignal succeed w (before ++ c :: after) = some w' ∧
      ((c.apply newNotifierSignal succeed w₁).1.initialized →
        ∀ n ∈ (searchPasses newNotifierSignal c.name c.walk w₁).2.1.notifiers,
          (∀ t ∈ c.task, (w'.notifier n).Listens t) ∧ ∀ s ∈ c.dependent, (w'.notifier n).Depends s) := by
  have part (calls : List SearchCall) (within : ∀ c' ∈ calls, c' ∈ before ++ c :: after) :
      Registers isTask calls := fun c' member => registers c' (within c' member)
  obtain ⟨w₁, ran₁, sound₁, -⟩ := searchRun_kept newNotifierSignal succeed isTask before
    (part before fun _ member => List.mem_append_left _ member) (Kept.refl isTask sound)
  obtain ⟨tasks, signals⟩ := registers c (List.mem_append_right _ (List.mem_cons_self c after))
  obtain ⟨w₂, searched, sound₂, registered⟩ := signalSearch_registers isTask newNotifierSignal
    c.name c.walk w₁ c.task c.dependent sound₁ tasks signals
  obtain ⟨w', ran₂, -, grows⟩ := searchRun_kept newNotifierSignal succeed isTask after
    (part after fun _ member => List.mem_append_right _ (List.mem_cons_of_mem c member))
    (Kept.refl isTask sound₂)
  refine ⟨w₁, w', ran₁, ?_, fun initialized n found => ?_⟩
  · rw [searchRun_append, ran₁, Option.some_bind, searchRun, SearchCall.apply_eq, searched,
      Option.some_bind, ran₂]
  · rw [SearchCall.apply_eq] at initialized
    obtain ⟨listens, depends⟩ := registered initialized n found
    exact ⟨fun t mem => (grows n).1 t (listens t mem), fun s mem => (grows n).2 s (depends s mem)⟩

theorem searchRun_registration_persists_example :
    let element : Element := ⟨fun name => if name = emptyNotifier then some 1
      else if name = fullNotifier then some 2 else none, fun _ _ => false, fun _ _ => false⟩
    let walk : Walk := ⟨0, [⟨element, false, 0⟩], [], 0⟩
    let w : World Unit := ⟨fun _ => ⟨⟨.word 0, 1⟩, .searchStop, some init⟩, ()⟩
    let before : List SearchCall := [⟨false, walk, some 6, none⟩]
    let c : SearchCall := ⟨true, walk, some 5, some 200⟩
    let after : List SearchCall := [⟨true, walk, some 7, some 201⟩]
    (∀ n, (w.notifier n).Sound (· < 100)) ∧ Registers (· < 100) (before ++ c :: after) ∧
      ∃ w₁ w', searchRun (fun _ => none) succeed w before = some w₁ ∧
        searchRun (fun _ => none) succeed w (before ++ c :: after) = some w' ∧
        ((c.apply (fun _ => none) succeed w₁).1.initialized →
          ∀ n ∈ (searchPasses (fun _ => none) c.name c.walk w₁).2.1.notifiers,
            (∀ t ∈ c.task, (w'.notifier n).Listens t) ∧
              ∀ s ∈ c.dependent, (w'.notifier n).Depends s) := by
  intro element walk w before c after
  have sound : ∀ n, (w.notifier n).Sound (· < 100) := fun n => Sound.of_init _ rfl
  have registers : Registers (· < 100) (before ++ c :: after) := by
    simp [Registers, before, c, after]
  exact ⟨sound, registers, searchRun_registration_persists (fun _ => none) (· < 100) before after c
    w sound registers⟩

end Persistence

end ClickNotifier.Notifier
