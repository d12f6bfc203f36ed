import ClickNotifier.Search
import ClickNotifier.ListenerLayout

/-!
# Registration after a search

What `upstream_empty_signal` and `downstream_full_signal` do to the listener lists of the
notifiers they find. The passes only give uninitialized signals a new one, so they leave every
listener list as it was, and a search changes no notifier its passes did not record; when the
signal returned is initialized, the task and the dependent signal are registered on every
notifier found. When no task pointer is a signal pointer, no registration faults and every
listener list of the configuration stays canonical, whatever the allocator does; with
allocations succeeding, each `ActiveNotifier` found lists the task and the dependent signal,
each exactly once.
-/

namespace ClickNotifier

open ActiveNotifier NotifierElementFilter

def Notifier.Initializes (n n' : Notifier) : Prop :=
  n' = n ∨ n.signal.initialized = false ∧ ∃ s, n' = { n with signal := s }

theorem Notifier.Initializes.refl (n : Notifier) : n.Initializes n := .inl rfl

theorem Notifier.Initializes.trans {n n' n'' : Notifier} (first : n.Initializes n')
    (second : n'.Initializes n'') : n.Initializes n'' := by
  rcases first with rfl | ⟨uninit, s, rfl⟩
  · exact second
  · rcases second with rfl | ⟨-, s', rfl⟩
    exacts [.inr ⟨uninit, s, rfl⟩, .inr ⟨uninit, s', rfl⟩]

theorem Notifier.Initializes.listenerList {n n' : Notifier} (initializes : n.Initializes n') :
    n'.listenerList = n.listenerList := by
  rcases initializes with rfl | ⟨-, s, rfl⟩ <;> rfl

namespace NotifierElementFilter

section Frame

variable {Router : Type} (newNotifierSignal : Router → Option (NotifierSignal × Router))

theorem initializeNotifier_initializes (n : Notifier) (r : Router) :
    n.Initializes (initializeNotifier newNotifierSignal n r).2.1 := by
  unfold initializeNotifier
  split_ifs with initialized
  · exact .refl n
  · split
    · exact .inr ⟨by simpa using initialized, _, rfl⟩
    · exact .refl n

theorem ensureInitialized_initializes (w : World Router) (n m : Nat) :
    (w.notifier m).Initializes ((ensureInitialized newNotifierSignal w n).notifier m) := by
  unfold ensureInitialized
  split_ifs
  · exact .refl _
  · split
    next initialized =>
      have step := initializeNotifier_initializes newNotifierSignal (w.notifier n) w.router
      rw [initialized] at step
      by_cases same : m = n
      · subst same; simpa using step
      · simpa [same] using .refl _

theorem checkMatch_initializes (f : NotifierElementFilter) (w : World Router) (v : Visit)
    (m : Nat) : (w.notifier m).Initializes ((checkMatch newNotifierSignal f w v).2.2.notifier m) := by
  unfold checkMatch
  split
  · simp only []
    split_ifs <;> exact ensureInitialized_initializes newNotifierSignal w _ m
  · split_ifs <;> exact .refl _

theorem checkRun_initializes (f : NotifierElementFilter) (w : World Router)
    (calls : List (Bool × Visit)) (m : Nat) :
    (w.notifier m).Initializes ((checkRun newNotifierSignal f w calls).2.1.notifier m) := by
  induction calls generalizing f w with
  | nil => exact .refl _
  | cons call calls ih =>
    rw [checkRun_cons]
    exact (checkMatch_initializes newNotifierSignal _ w _ m).trans (ih _ _)

end Frame

end NotifierElementFilter

namespace Notifier

section Frame

variable {Router : Type} (newNotifierSignal : Router → Option (NotifierSignal × Router))

theorem searchPasses_initializes (name : String) (walk : Walk) (w : World Router) (m : Nat) :
    (w.notifier m).Initializes ((searchPasses newNotifierSignal name walk w).2.2.notifier m) := by
  simp only [searchPasses]
  split_ifs
  · exact (checkRun_initializes newNotifierSignal _ w _ m).trans (checkRun_initializes _ _ _ _ m)
  · exact checkRun_initializes newNotifierSignal _ w _ m

theorem searchPasses_listenerList (name : String) (walk : Walk) (w : World Router) (m : Nat) :
    ((searchPasses newNotifierSignal name walk w).2.2.notifier m).listenerList =
      (w.notifier m).listenerList :=
  (searchPasses_initializes newNotifierSignal name walk w m).listenerList

end Frame

def Listens (n : Notifier) (task : Nat) : Prop :=
  ∀ l, n.listenerList = some l → ∃ ts, l.listeners = some ts ∧ task ∈ ts

def Depends (n : Notifier) (signal : Nat) : Prop :=
  ∀ l, n.listenerList = some l → ∃ ss, l.dependentSignals = some ss ∧ signal ∈ ss

def Grows (n n' : Notifier) : Prop :=
  (∀ t, n.Listens t → n'.Listens t) ∧ ∀ s, n.Depends s → n'.Depends s

theorem Grows.refl (n : Notifier) : n.Grows n := ⟨fun _ => id, fun _ => id⟩

theorem Grows.trans {n n' n'' : Notifier} (first : n.Grows n') (second : n'.Grows n'') :
    n.Grows n'' :=
  ⟨fun t => second.1 t ∘ first.1 t, fun s => second.2 s ∘ first.2 s⟩

theorem Grows.of_listenerList {n n' : Notifier} (same : n'.listenerList = n.listenerList) :
    n.Grows n' :=
  ⟨fun _ listens l list => listens l (same ▸ list), fun _ depends l list => depends l (same ▸ list)⟩

section Registration

variable (isTask : Nat → Prop)

/-- The listener list of `n`, if it has one, is canonical, every task in it satisfying `isTask`
and no dependent signal. -/
def Sound (n : Notifier) : Prop :=
  ∀ l, n.listenerList = some l → ∃ ts ss, Layout l ts ss ∧ Partitions ts ss ∧
    (∀ t ∈ ts, isTask t) ∧ ∀ s ∈ ss, ¬ isTask s

theorem Sound.listenerChange {n : Notifier} (sound : n.Sound isTask) {l : ActiveNotifier}
    (list : n.listenerList = some l) {what part : Nat} (nonnull : what ≠ 0) (hpart : part ≤ 1)
    (kind : part = 0 ↔ isTask what) :
    ∃ l', ActiveNotifier.listenerChange succeed what part true l = some (0, l') ∧
      ({ n with listenerList := some l' } : Notifier).Sound isTask ∧
      n.Grows { n with listenerList := some l' } ∧
      ∃ ts ss, l'.listeners = some ts ∧ l'.dependentSignals = some ss ∧
        what ∈ (if part = 0 then ts else ss) := by
  obtain ⟨ts, ss, layout, parts, tasks, signals⟩ := sound l list
  have fresh : what ∉ (if part = 0 then ss else ts) := by
    by_cases hp : part = 0
    · simpa [hp] using fun member => signals what member (kind.mp hp)
    · simpa [hp] using fun member => hp (kind.mpr (tasks what member))
  obtain ⟨l', run, layout'⟩ := listenerChange_layout layout parts nonnull hpart fresh true
  have parts' := parts.change nonnull part true
  obtain ⟨listed, depending⟩ := layout'.read parts'
  obtain ⟨listed₀, depending₀⟩ := layout.read parts
  have kept : ts ⊆ (change what part true (ts, ss)).1 ∧ ss ⊆ (change what part true (ts, ss)).2 := by
    by_cases hp : part = 0 <;> simp [change, hp, List.subset_def] <;> exact fun member => .inl member
  refine ⟨l', run, ?_, ⟨?_, ?_⟩, _, _, listed, depending, ?_⟩
  · rintro _ ⟨⟩
    refine ⟨_, _, layout', parts', fun t member => ?_, fun x member => ?_⟩
    · rcases mem_change_fst member with old | ⟨hp, rfl⟩
      exacts [tasks t old, kind.mp hp]
    · rcases mem_change_snd member with old | ⟨hp, rfl⟩
      exacts [signals x old, fun task => hp (kind.mpr task)]
  · rintro t listens _ ⟨⟩
    obtain ⟨_, read, member⟩ := listens l list
    exact ⟨_, listed, kept.1 (Option.some.inj (read.symm.trans listed₀) ▸ member)⟩
  · rintro x depends _ ⟨⟩
    obtain ⟨_, read, member⟩ := depends l list
    exact ⟨_, depending, kept.2 (Option.some.inj (read.symm.trans depending₀) ▸ member)⟩
  · by_cases hp : part = 0 <;> simp [change, hp]

theorem Sound.of_listenerList {n n' : Notifier} (sound : n.Sound isTask)
    (same : n'.listenerList = n.listenerList) : n'.Sound isTask :=
  fun l list => sound l (same ▸ list)

theorem Sound.of_init {n : Notifier} (fresh : n.listenerList = some ActiveNotifier.init) :
    n.Sound isTask := by
  intro l list
  rw [fresh] at list
  cases list
  exact ⟨[], [], .empty, ⟨.nil, .nil, by simp, by simp⟩, by simp, by simp⟩

theorem Sound.register {n : Notifier} (sound : n.Sound isTask) (alloc : Nat → Bool)
    {what part : Nat} (nonnull : what ≠ 0) (hpart : part ≤ 1) (kind : part = 0 ↔ isTask what) :
    ∃ n', n.listenerChange alloc what part = some n' ∧ n'.Sound isTask ∧ n.Grows n' := by
  cases list : n.listenerList with
  | none => exact ⟨n, by simp [Notifier.listenerChange, list], sound, .refl n⟩
  | some l =>
    obtain ⟨ts, ss, layout, parts, -⟩ := sound l list
    have step := ActiveNotifier.listenerChange_alloc layout parts alloc what part true
    split_ifs at step
    · have same : ({ n with listenerList := some l } : Notifier) = n := by
        cases n; cases list; rfl
      exact ⟨n, by simp [Notifier.listenerChange, list, step, same], sound, .refl n⟩
    · obtain ⟨l', run, sound', grows, -⟩ := sound.listenerChange isTask list nonnull hpart kind
      exact ⟨_, by simp [Notifier.listenerChange, list, step, run], sound', grows⟩

theorem Sound.register_succeed {n : Notifier} (sound : n.Sound isTask) {what part : Nat}
    (nonnull : what ≠ 0) (hpart : part ≤ 1) (kind : part = 0 ↔ isTask what) :
    ∃ n', n.listenerChange succeed what part = some n' ∧ n'.Sound isTask ∧ n.Grows n' ∧
      if part = 0 then n'.Listens what else n'.Depends what := by
  cases list : n.listenerList with
  | none =>
    refine ⟨n, by simp [Notifier.listenerChange, list], sound, .refl n, ?_⟩
    split_ifs <;> simp [Listens, Depends, list]
  | some l =>
    obtain ⟨l', run, sound', grows, ts, ss, listed, depending, member⟩ :=
      sound.listenerChange isTask list nonnull hpart kind
    refine ⟨_, by simp [Notifier.listenerChange, list, run], sound', grows, ?_⟩
    split_ifs at member ⊢
    · rintro _ ⟨⟩; exact ⟨ts, listed, member⟩
    · rintro _ ⟨⟩; exact ⟨ss, depending, member⟩

section Run

variable {Router : Type}

theorem forNotifiers_registers {op : Notifier → Option Notifier} {Done : Notifier → Prop}
    (step : ∀ n, n.Sound isTask → ∃ n', op n = some n' ∧ n'.Sound isTask ∧ Done n' ∧ n.Grows n')
    (keep : ∀ {n n'}, Done n → n.Grows n' → Done n') (ns : List Nat) (w : World Router)
    (sound : ∀ n, (w.notifier n).Sound isTask) :
    ∃ w', forNotifiers op ns w = some w' ∧ (∀ n, (w'.notifier n).Sound isTask) ∧
      (∀ n ∈ ns, Done (w'.notifier n)) ∧ ∀ n, (w.notifier n).Grows (w'.notifier n) := by
  induction ns generalizing w with
  | nil => exact ⟨w, rfl, sound, by simp, fun n => .refl _⟩
  | cons m ns ih =>
    obtain ⟨n', run, sound', done, grows⟩ := step _ (sound m)
    let w₁ : World Router := { w with notifier := Function.update w.notifier m n' }
    have sound₁ (n : Nat) : (w₁.notifier n).Sound isTask := by
      by_cases same : n = m
      · subst same; simpa [w₁] using sound'
      · simpa [w₁, same] using sound n
    obtain ⟨w', rest, sound'', dones, grows'⟩ := ih w₁ sound₁
    refine ⟨w', by rw [forNotifiers, run]; exact rest, sound'', ?_, fun n => ?_⟩
    · intro n member
      rcases List.mem_cons.mp member with rfl | later
      · exact keep (by simpa [w₁] using done) (grows' n)
      · exact dones n later
    · by_cases same : n = m
      · subst same; exact grows.trans (by simpa [w₁] using grows' n)
      · simpa [w₁, same] using grows' n

theorem registerAll_registers (op : Nat → Notifier → Option Notifier)
    (Done : Nat → Notifier → Prop) (x : Option Nat)
    (step : ∀ a ∈ x, ∀ n, n.Sound isTask →
      ∃ n', op a n = some n' ∧ n'.Sound isTask ∧ Done a n' ∧ n.Grows n')
    (keep : ∀ a ∈ x, ∀ {n n'}, Done a n → n.Grows n' → Done a n') (ns : List Nat)
    (w : World Router) (sound : ∀ n, (w.notifier n).Sound isTask) :
    ∃ w', registerAll op x ns w = some w' ∧ (∀ n, (w'.notifier n).Sound isTask) ∧
      (∀ a ∈ x, ∀ n ∈ ns, Done a (w'.notifier n)) ∧ ∀ n, (w.notifier n).Grows (w'.notifier n) := by
  cases x with
  | none => exact ⟨w, rfl, sound, by simp, fun n => .refl _⟩
  | some a =>
    obtain ⟨w', run, sound', done, grows⟩ :=
      forNotifiers_registers isTask (step a (by simp)) (keep a (by simp)) ns w sound
    exact ⟨w', run, sound', fun b mem => by cases Option.mem_some_iff.mp mem; exact done, grows⟩

end Run

section Search

variable {Router : Type} (newNotifierSignal : Router → Option (NotifierSignal × Router))

theorem signalSearch_registration_total (alloc : Nat → Bool) (name : String) (walk : Walk)
    (w : World Router) (task dependent : Option Nat) (sound : ∀ n, (w.notifier n).Sound isTask)
    (tasks : ∀ t ∈ task, t ≠ 0 ∧ isTask t) (signals : ∀ s ∈ dependent, s ≠ 0 ∧ ¬ isTask s) :
    ∃ w', (signalSearch newNotifierSignal alloc name walk w task dependent).2 = some w' ∧
      (∀ n, (w'.notifier n).Sound isTask) ∧ ∀ n, (w.notifier n).Grows (w'.notifier n) := by
  let found := (searchPasses newNotifierSignal name walk w).2.1.notifiers
  have sound₀ (n : Nat) := (sound n).of_listenerList isTask
    (searchPasses_listenerList newNotifierSignal name walk w n)
  have grows₀ (n : Nat) := Grows.of_listenerList (searchPasses_listenerList newNotifierSignal name walk w n)
  obtain ⟨w₁, listened, sound₁, -, grows₁⟩ :=
    registerAll_registers isTask (addListener alloc) (fun _ _ => True) task
    (fun t mem n sound =>
      (sound.register isTask alloc (tasks t mem).1 (Nat.zero_le 1)
        (iff_of_true rfl (tasks t mem).2)).imp fun _ ⟨run, sound', grows⟩ =>
          ⟨run, sound', trivial, grows⟩)
    (fun _ _ _ _ _ _ => trivial) found _ sound₀
  obtain ⟨w₂, depended, sound₂, -, grows₂⟩ :=
    registerAll_registers isTask (addDependentSignal alloc) (fun _ _ => True) dependent
    (fun s mem n sound =>
      (sound.register isTask alloc (signals s mem).1 le_rfl
        (iff_of_false (by decide) (signals s mem).2)).imp fun _ ⟨run, sound', grows⟩ =>
          ⟨run, sound', trivial, grows⟩)
    (fun _ _ _ _ _ _ => trivial) found _ sound₁
  simp only [signalSearch]
  split_ifs
  · exact ⟨_, rfl, sound₀, grows₀⟩
  · exact ⟨w₂, by rw [listened, Option.some_bind, depended], sound₂,
      fun n => (grows₀ n).trans ((grows₁ n).trans (grows₂ n))⟩

theorem signalSearch_registers (name : String) (walk : Walk) (w : World Router)
    (task dependent : Option Nat) (sound : ∀ n, (w.notifier n).Sound isTask)
    (tasks : ∀ t ∈ task, t ≠ 0 ∧ isTask t) (signals : ∀ s ∈ dependent, s ≠ 0 ∧ ¬ isTask s) :
    let search := signalSearch newNotifierSignal succeed name walk w task dependent
    ∃ w', search.2 = some w' ∧ (∀ n, (w'.notifier n).Sound isTask) ∧
      (search.1.initialized → ∀ n ∈ (searchPasses newNotifierSignal name walk w).2.1.notifiers,
        (∀ t ∈ task, (w'.notifier n).Listens t) ∧ ∀ s ∈ dependent, (w'.notifier n).Depends s) := by
  let found := (searchPasses newNotifierSignal name walk w).2.1.notifiers
  have sound₀ (n : Nat) := (sound n).of_listenerList isTask
    (searchPasses_listenerList newNotifierSignal name walk w n)
  obtain ⟨w₁, listened, sound₁, listens₁, -⟩ :=
    registerAll_registers isTask (addListener succeed) (fun t n => n.Listens t) task
      (fun t mem n sound => (sound.register_succeed isTask (tasks t mem).1 (Nat.zero_le 1)
        (iff_of_true rfl (tasks t mem).2)).imp fun _ ⟨run, sound', grows, listens⟩ =>
          ⟨run, sound', listens, grows⟩)
      (fun _ _ _ _ listens grows => grows.1 _ listens) found _ sound₀
  obtain ⟨w₂, depended, sound₂, depends₂, grows₂⟩ :=
    registerAll_registers isTask (addDependentSignal succeed) (fun s n => n.Depends s) dependent
      (fun s mem n sound => (sound.register_succeed isTask (signals s mem).1 le_rfl
        (iff_of_false (by decide) (signals s mem).2)).imp fun _ ⟨run, sound', grows, depends⟩ =>
          ⟨run, sound', depends, grows⟩)
      (fun _ _ _ _ depends grows => grows.2 _ depends) found _ sound₁
  simp only [signalSearch]
  split_ifs
  · refine ⟨_, rfl, sound₀, fun initialized => ?_⟩
    simp [NotifierSignal.uninitialized, NotifierSignal.initialized] at initialized
  · refine ⟨w₂, by rw [listened, Option.some_bind, depended], sound₂, fun _ n member =>
      ⟨fun t mem => (grows₂ n).1 t (listens₁ t mem n member), fun s mem => depends₂ s mem n member⟩⟩

/-- With allocations succeeding and the signal returned initialized, every `ActiveNotifier` found
lists the task and the dependent signal exactly once, though the second pass records again the
notifiers of the first and a walk may meet a notifier more than once. -/
theorem signalSearch_registers_once (name : String) (walk : Walk) (w : World Router)
    (task dependent : Option Nat) (sound : ∀ n, (w.notifier n).Sound isTask)
    (tasks : ∀ t ∈ task, t ≠ 0 ∧ isTask t) (signals : ∀ s ∈ dependent, s ≠ 0 ∧ ¬ isTask s) :
    let search := signalSearch newNotifierSignal succeed name walk w task dependent
    ∃ w', search.2 = some w' ∧ (search.1.initialized →
      ∀ n ∈ (searchPasses newNotifierSignal name walk w).2.1.notifiers,
        ∀ l, (w'.notifier n).listenerList = some l →
          (∀ t ∈ task, ∃ ts, l.listeners = some ts ∧ ts.count t = 1) ∧
          ∀ s ∈ dependent, ∃ ss, l.dependentSignals = some ss ∧ ss.count s = 1) := by
  obtain ⟨w', ran, sound', registered⟩ :=
    signalSearch_registers isTask newNotifierSignal name walk w task dependent sound tasks signals
  refine ⟨w', ran, fun initialized n found l list => ?_⟩
  obtain ⟨listens, depends⟩ := registered initialized n found
  obtain ⟨ts, ss, layout, parts, -⟩ := sound' n l list
  obtain ⟨listed, depending⟩ := layout.read parts
  refine ⟨fun t mem => ?_, fun s mem => ?_⟩
  · obtain ⟨ts', listed', member⟩ := listens t mem l list
    cases listed.symm.trans listed'
    exact ⟨ts, listed, List.count_eq_one_of_mem parts.tasks_nodup member⟩
  · obtain ⟨ss', depending', member⟩ := depends s mem l list
    cases depending.symm.trans depending'
    exact ⟨ss, depending, List.count_eq_one_of_mem parts.signals_nodup member⟩

theorem signalSearch_registers_once_example :
    let element : Element :=
      ⟨fun name => if name = emptyNotifier then some 1 else none, fun _ _ => false, fun _ _ => false⟩
    let walk : Walk := ⟨0, [⟨element, false, 0⟩], [⟨element, true, 0⟩], 0⟩
    let w : World Unit := ⟨fun _ => ⟨⟨.word 0, 1⟩, .searchContinueWake, some init⟩, ()⟩
    let search := signalSearch (fun _ => none) succeed emptyNotifier walk w (some 5) (some 200)
    (∀ n, (w.notifier n).Sound (· < 100)) ∧
      ∃ w', search.2 = some w' ∧ (search.1.initialized →
        ∀ n ∈ (searchPasses (fun _ => none) emptyNotifier walk w).2.1.notifiers,
          ∀ l, (w'.notifier n).listenerList = some l →
            (∀ t ∈ some 5, ∃ ts, l.listeners = some ts ∧ ts.count t = 1) ∧
            ∀ s ∈ some 200, ∃ ss, l.dependentSignals = some ss ∧ ss.count s = 1) := by
  intro element walk w search
  have sound : ∀ n, (w.notifier n).Sound (· < 100) := fun n => Sound.of_init _ rfl
  exact ⟨sound, signalSearch_registers_once (· < 100) (fun _ => none) emptyNotifier walk w
    (some 5) (some 200) sound (by simp) (by simp)⟩

end Search

end Registration

end Notifier

end ClickNotifier
