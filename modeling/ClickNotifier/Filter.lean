import ClickNotifier.Derived
import ClickNotifier.Listeners

/-!
# The notifier search filter

`NotifierElementFilter::check_match`, translated from `lib/notifier.cc`, over the part of the
router it touches: the notifiers, by pointer, and the router's allocator of basic signals.
`Router::new_notifier_signal` is not under src/ and is a parameter. A run of calls records the
signal each call combined.
-/

namespace ClickNotifier

/-- Modelled from the spec: `Notifier::SearchOp`. -/
inductive SearchOp where
  | searchStop
  | searchContinue
  | searchContinueWake
  deriving DecidableEq, Repr

/-- A notifier as the search sees it: its signal, its search op and, for an `ActiveNotifier`,
its listener list. -/
structure Notifier where
  signal : NotifierSignal
  searchOp : SearchOp
  listenerList : Option ActiveNotifier

/-- `Notifier::EMPTY_NOTIFIER`. -/
def emptyNotifier : String := "Notifier.EMPTY"

/-- `Notifier::FULL_NOTIFIER`. -/
def fullNotifier : String := "Notifier.FULL"

structure World (Router : Type) where
  notifier : Nat → Notifier
  router : Router

/-- What `check_match` asks of an element: `cast(name)`, `port_active(isoutput, port)`, and
whether `port_flow(isoutput, port, &flow)` leaves `flow` empty. -/
structure Element where
  cast : String → Option Nat
  portActive : Bool → Int → Bool
  portFlowZero : Bool → Int → Bool

structure Visit where
  element : Element
  isoutput : Bool
  port : Int

/-- `NotifierElementFilter`. -/
structure NotifierElementFilter where
  notifiers : List Nat
  signal : NotifierSignal
  pass2 : Bool
  needPass2 : Bool
  name : String

namespace NotifierElementFilter

open NotifierSignal

/-- `NotifierElementFilter::NotifierElementFilter(name)`. -/
def init (name : String) : NotifierElementFilter := ⟨[], idleSignal, false, false, name⟩

section Search

variable {Router : Type} (newNotifierSignal : Router → Option (NotifierSignal × Router))

/-- `Notifier::initialize(r)`: a new basic signal unless the signal is initialized. -/
def initializeNotifier (n : Notifier) (r : Router) : Int × Notifier × Router :=
  if n.signal.initialized then (0, n, r)
  else match newNotifierSignal r with
    | some (signal, r') => (0, { n with signal }, r')
    | none => (-1, n, r)

/-- Lines 372-373: the notifier `n` initialized if its signal is not. -/
def ensureInitialized (w : World Router) (n : Nat) : World Router :=
  if (w.notifier n).signal.initialized then w
  else
    let (_, notifier, router) := initializeNotifier newNotifierSignal (w.notifier n) w.router
    ⟨Function.update w.notifier n notifier, router⟩

/-- Lines 384-385: the port is a push/pull boundary or has no flow. -/
def backPressure (v : Visit) : Bool :=
  v.element.portActive v.isoutput v.port || v.element.portFlowZero v.isoutput v.port

/-- `NotifierElementFilter::check_match(e, isoutput, port)`: whether the walk stops at `e`. -/
def checkMatch (f : NotifierElementFilter) (w : World Router) (v : Visit) :
    Bool × NotifierElementFilter × World Router :=
  match v.element.cast f.name with
  | some n =>
    let w := ensureInitialized newNotifierSignal w n
    let f := { f with notifiers := f.notifiers ++ [n], signal := f.signal + (w.notifier n).signal }
    let searchOp := (w.notifier n).searchOp
    if searchOp = .searchContinueWake ∧ !f.pass2 then (true, { f with needPass2 := true }, w)
    else (searchOp = .searchStop, f, w)
  | none =>
    if 0 ≤ v.port then
      if backPressure v then (true, { f with signal := busySignal }, w) else (false, f, w)
    else (false, f, w)

def combinedSignal (f : NotifierElementFilter) (w : World Router) (v : Visit) :
    Option NotifierSignal :=
  (v.element.cast f.name).map fun n => ((ensureInitialized newNotifierSignal w n).notifier n).signal

def checkRun : NotifierElementFilter → World Router → List (Bool × Visit) →
    NotifierElementFilter × World Router × List NotifierSignal
  | f, w, [] => (f, w, [])
  | f, w, (pass2, v) :: calls =>
    let f₀ := { f with pass2 }
    let (_, f₁, w₁) := checkMatch newNotifierSignal f₀ w v
    let (f₂, w₂, combined) := checkRun f₁ w₁ calls
    (f₂, w₂, (combinedSignal newNotifierSignal f₀ w v).toList ++ combined)

def TakesBackPressure (name : String) (v : Visit) : Prop :=
  v.element.cast name = none ∧ 0 ≤ v.port ∧ backPressure v = true

instance (name : String) (v : Visit) : Decidable (TakesBackPressure name v) :=
  inferInstanceAs (Decidable (_ ∧ _ ∧ _))

theorem checkMatch_name (f : NotifierElementFilter) (w : World Router) (v : Visit) :
    (checkMatch newNotifierSignal f w v).2.1.name = f.name := by
  unfold checkMatch
  split <;> (try simp only) <;> split_ifs <;> rfl

theorem checkMatch_signal (f : NotifierElementFilter) (w : World Router) (v : Visit) :
    (checkMatch newNotifierSignal f w v).2.1.signal =
      match combinedSignal newNotifierSignal f w v with
      | some c => f.signal + c
      | none => if TakesBackPressure f.name v then busySignal else f.signal := by
  unfold checkMatch combinedSignal TakesBackPressure
  split <;> rename_i cast <;> simp only [cast, Option.map_some', Option.map_none']
  · split_ifs <;> rfl
  · by_cases port : 0 ≤ v.port <;> by_cases bp : backPressure v <;> simp [port, bp]

section Activity

variable (words : SignalWords)

theorem checkMatch_busy {f : NotifierElementFilter} (busy : f.signal = busySignal)
    (w : World Router) (v : Visit) : (checkMatch newNotifierSignal f w v).2.1.signal = busySignal := by
  rw [checkMatch_signal]
  split
  · rw [busy, busySignal_add]
  · split_ifs <;> first | rfl | exact busy

theorem checkMatch_takesBackPressure {f : NotifierElementFilter} {v : Visit}
    (taken : TakesBackPressure f.name v) (w : World Router) :
    (checkMatch newNotifierSignal f w v).2.1.signal = busySignal := by
  have none : combinedSignal newNotifierSignal f w v = none := by
    simp [combinedSignal, taken.1]
  rw [checkMatch_signal, none]
  simp [taken]

theorem checkMatch_active {f : NotifierElementFilter}
    (active : f.signal.active (staticInitialize words)) (w : World Router) (v : Visit) :
    (checkMatch newNotifierSignal f w v).2.1.signal.active (staticInitialize words) := by
  rw [checkMatch_signal]
  split
  · exact active_add_of_active words _ _ (by simp [active])
  · split_ifs
    · exact active_busySignal words
    · exact active

theorem checkMatch_combined_active {f : NotifierElementFilter} {w : World Router} {v : Visit}
    {c : NotifierSignal} (combined : combinedSignal newNotifierSignal f w v = some c)
    (active : c.active (staticInitialize words)) :
    (checkMatch newNotifierSignal f w v).2.1.signal.active (staticInitialize words) := by
  rw [checkMatch_signal, combined]
  exact active_add_of_active words _ _ (by simp [active])

end Activity

theorem checkRun_cons (f : NotifierElementFilter) (w : World Router) (pass2 : Bool) (v : Visit)
    (calls : List (Bool × Visit)) :
    checkRun newNotifierSignal f w ((pass2, v) :: calls) =
      let r := checkMatch newNotifierSignal { f with pass2 } w v
      let rest := checkRun newNotifierSignal r.2.1 r.2.2 calls
      (rest.1, rest.2.1,
        (combinedSignal newNotifierSignal { f with pass2 } w v).toList ++ rest.2.2) := rfl

theorem checkRun_name (f : NotifierElementFilter) (w : World Router) (calls : List (Bool × Visit)) :
    (checkRun newNotifierSignal f w calls).1.name = f.name := by
  induction calls generalizing f w with
  | nil => rfl
  | cons call calls ih =>
    rw [checkRun_cons, ih, checkMatch_name]

theorem checkRun_busy (f : NotifierElementFilter) (w : World Router) (calls : List (Bool × Visit))
    (busy : f.signal = busySignal ∨ ∃ c ∈ calls, TakesBackPressure f.name c.2) :
    (checkRun newNotifierSignal f w calls).1.signal = busySignal := by
  induction calls generalizing f w with
  | nil => simpa using busy
  | cons call calls ih =>
    obtain ⟨pass2, v⟩ := call
    rw [checkRun_cons]
    apply ih
    rw [checkMatch_name]
    rcases busy with busy | ⟨c, member, taken⟩
    · exact .inl (checkMatch_busy newNotifierSignal (f := { f with pass2 }) busy w v)
    · rcases List.mem_cons.mp member with rfl | later
      · exact .inl (checkMatch_takesBackPressure newNotifierSignal (f := { f with pass2 }) taken w)
      · exact .inr ⟨c, later, taken⟩

theorem checkRun_active (words : SignalWords) (f : NotifierElementFilter) (w : World Router)
    (calls : List (Bool × Visit)) :
    (f.signal.active (staticInitialize words) →
      (checkRun newNotifierSignal f w calls).1.signal.active (staticInitialize words)) ∧
    ∀ c ∈ (checkRun newNotifierSignal f w calls).2.2, c.active (staticInitialize words) →
      (checkRun newNotifierSignal f w calls).1.signal.active (staticInitialize words) := by
  induction calls generalizing f w with
  | nil => simp [checkRun]
  | cons call calls ih =>
    obtain ⟨pass2, v⟩ := call
    rw [checkRun_cons]
    obtain ⟨mono, combined⟩ := ih (checkMatch newNotifierSignal { f with pass2 } w v).2.1
      (checkMatch newNotifierSignal { f with pass2 } w v).2.2
    refine ⟨fun active => mono (checkMatch_active newNotifierSignal words (f := { f with pass2 })
      active w v), ?_⟩
    intro c member active
    rcases List.mem_append.mp member with here | later
    · exact mono (checkMatch_combined_active newNotifierSignal words
        (Option.mem_toList.mp here) active)
    · exact combined c later active

/-- Along any sequence of `check_match` calls on a new filter, with `_pass2` set either way
before each, `_signal` is busy once a call has taken the back-pressure branch, and active
whenever a signal combined so far is active. -/
theorem checkRun_signal_sound (words : SignalWords) (name : String) (w : World Router)
    (calls : List (Bool × Visit)) :
    ((∃ c ∈ calls, TakesBackPressure name c.2) →
      (checkRun newNotifierSignal (init name) w calls).1.signal = busySignal) ∧
    ∀ c ∈ (checkRun newNotifierSignal (init name) w calls).2.2, c.active (staticInitialize words) →
      (checkRun newNotifierSignal (init name) w calls).1.signal.active (staticInitialize words) :=
  ⟨fun taken => checkRun_busy newNotifierSignal _ w calls (.inr taken),
    (checkRun_active newNotifierSignal words _ w calls).2⟩

theorem checkRun_signal_fold (f : NotifierElementFilter) (w : World Router)
    (calls : List (Bool × Visit)) (free : ∀ c ∈ calls, ¬ TakesBackPressure f.name c.2) :
    (checkRun newNotifierSignal f w calls).1.signal =
      (checkRun newNotifierSignal f w calls).2.2.foldl (· + ·) f.signal := by
  induction calls generalizing f w with
  | nil => rfl
  | cons call calls ih =>
    obtain ⟨pass2, v⟩ := call
    have step : (checkMatch newNotifierSignal { f with pass2 } w v).2.1.signal =
        (combinedSignal newNotifierSignal { f with pass2 } w v).toList.foldl (· + ·) f.signal := by
      rw [checkMatch_signal]
      split <;> rename_i combined <;> rw [combined]
      · rfl
      · exact if_neg (free _ (List.mem_cons_self _ _))
    rw [checkRun_cons]
    simp only [List.foldl_append, ← step]
    exact ih _ _ fun c member => by
      rw [checkMatch_name]; exact free c (List.mem_cons_of_mem _ member)

private theorem mem_pmap_mk {l : List NotifierSignal} (proper : ∀ c ∈ l, Proper c)
    (s : ProperSignal) : s ∈ l.pmap Subtype.mk proper ↔ s.1 ∈ l := by
  simp only [List.mem_pmap]
  exact ⟨fun ⟨_, member, same⟩ => same ▸ member, fun member => ⟨s.1, member, rfl⟩⟩

/-- Two runs on new filters that meet no back-pressure boundary and combine initialized signals
with the same members derive equal signals, whatever the order of the calls and the
repetitions. -/
theorem checkRun_derived_eq (name : String) (w₁ w₂ : World Router)
    (calls₁ calls₂ : List (Bool × Visit))
    (free₁ : ∀ c ∈ calls₁, ¬ TakesBackPressure name c.2)
    (free₂ : ∀ c ∈ calls₂, ¬ TakesBackPressure name c.2)
    (proper₁ : ∀ c ∈ (checkRun newNotifierSignal (init name) w₁ calls₁).2.2, Proper c)
    (proper₂ : ∀ c ∈ (checkRun newNotifierSignal (init name) w₂ calls₂).2.2, Proper c)
    (same : ∀ c, c ∈ (checkRun newNotifierSignal (init name) w₁ calls₁).2.2 ↔
      c ∈ (checkRun newNotifierSignal (init name) w₂ calls₂).2.2) :
    (checkRun newNotifierSignal (init name) w₁ calls₁).1.signal.equal
      (checkRun newNotifierSignal (init name) w₂ calls₂).1.signal = true := by
  rw [checkRun_signal_fold newNotifierSignal _ w₁ calls₁ free₁,
    checkRun_signal_fold newNotifierSignal _ w₂ calls₂ free₂]
  set l₁ := (checkRun newNotifierSignal (init name) w₁ calls₁).2.2
  set l₂ := (checkRun newNotifierSignal (init name) w₂ calls₂).2.2
  have members : (l₁.pmap Subtype.mk proper₁).toFinset = (l₂.pmap Subtype.mk proper₂).toFinset :=
    Finset.ext fun s => by
      rw [List.mem_toFinset, List.mem_toFinset, mem_pmap_mk, mem_pmap_mk]; exact same s.1
  have sup₁ := foldl_add_eq_sup (l₁.pmap Subtype.mk proper₁)
  have sup₂ := foldl_add_eq_sup (l₂.pmap Subtype.mk proper₂)
  rw [List.map_pmap, List.pmap_eq_map] at sup₁ sup₂
  simp only [List.map_id'] at sup₁ sup₂
  rw [show (init name).signal = idleSignal from rfl, sup₁, sup₂, members, equal_self]

theorem checkRun_derived_eq_example :
    let element (n : Nat) : Element :=
      ⟨fun name => if name = emptyNotifier then some n else none, fun _ _ => false, fun _ _ => false⟩
    let w : World Unit := ⟨fun n => ⟨⟨.word 0, BitVec.ofNat 32 n⟩, .searchContinue, none⟩, ()⟩
    let visit (n : Nat) : Bool × Visit := (false, ⟨element n, false, 0⟩)
    let calls₁ := [visit 1, visit 2]
    let calls₂ := [visit 2, visit 1, visit 1]
    let run₁ := checkRun (fun _ => none) (init emptyNotifier) w calls₁
    let run₂ := checkRun (fun _ => none) (init emptyNotifier) w calls₂
    (∀ c ∈ calls₁, ¬ TakesBackPressure emptyNotifier c.2) ∧
      (∀ c ∈ calls₂, ¬ TakesBackPressure emptyNotifier c.2) ∧
      (∀ c ∈ run₁.2.2, Proper c) ∧ (∀ c ∈ run₂.2.2, Proper c) ∧
      (∀ c, c ∈ run₁.2.2 ↔ c ∈ run₂.2.2) ∧ run₁.1.signal.equal run₂.1.signal = true := by
  intro element w visit calls₁ calls₂ run₁ run₂
  have combined₁ : run₁.2.2 = [⟨.word 0, 1⟩, ⟨.word 0, 2⟩] := by decide
  have combined₂ : run₂.2.2 = [⟨.word 0, 2⟩, ⟨.word 0, 1⟩, ⟨.word 0, 1⟩] := by decide
  have basic (c : NotifierSignal) (which : c = ⟨.word 0, 1⟩ ∨ c = ⟨.word 0, 2⟩) : Proper c := by
    rcases which with rfl | rfl <;> exact .basic _ _ (by decide)
  have free₁ : ∀ c ∈ calls₁, ¬ TakesBackPressure emptyNotifier c.2 := by decide
  have free₂ : ∀ c ∈ calls₂, ¬ TakesBackPressure emptyNotifier c.2 := by decide
  have same : ∀ c, c ∈ run₁.2.2 ↔ c ∈ run₂.2.2 := fun c => by
    rw [combined₁, combined₂]
    simp only [List.mem_cons, List.mem_singleton, or_self, List.not_mem_nil, or_false]
    exact or_comm
  have proper₁ : ∀ c ∈ run₁.2.2, Proper c := fun c member => basic c (by
    rw [combined₁] at member
    simpa only [List.mem_cons, List.mem_singleton, List.not_mem_nil, or_false] using member)
  have proper₂ : ∀ c ∈ run₂.2.2, Proper c := fun c member => proper₁ c ((same c).mpr member)
  exact ⟨free₁, free₂, proper₁, proper₂, same,
    checkRun_derived_eq (fun _ => none) emptyNotifier w w calls₁ calls₂ free₁ free₂ proper₁ proper₂ same⟩

end Search

end NotifierElementFilter

end ClickNotifier
