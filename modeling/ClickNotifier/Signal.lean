import Mathlib.Logic.Function.Basic

/-!
# Activity signals

`NotifierSignal` of `lib/notifier.cc`: a pointer to an atomic signal word and a 32-bit mask.
The class's header is not under src/, so the pointer type, the reserved bits, the canonical
signals, `active`, `initialized` and `==` are modelled from the spec; `static_initialize` and
`operator+=` are translated from the source.
-/

namespace ClickNotifier

/-- Modelled from the spec: the word a signal points to, the process-wide static word, a word
of some router, or the null pointer of an uninitialized signal. -/
inductive WordPtr where
  | null
  | staticValue
  | word (addr : Nat)
  deriving DecidableEq, Repr

/-- Modelled from the spec: the reserved bit of the static word read by the busy signal. -/
def trueMask : BitVec 32 := 1

/-- Modelled from the spec: the reserved bit that flags the overderived signal. -/
def overderivedMask : BitVec 32 := 2

structure NotifierSignal where
  value : WordPtr
  mask : BitVec 32
  deriving DecidableEq, Repr

/-- The contents of every signal word at one instant. -/
abbrev SignalWords := WordPtr → BitVec 32

/-- `NotifierSignal::static_initialize`. -/
def staticInitialize (words : SignalWords) : SignalWords :=
  Function.update words .staticValue (trueMask ||| overderivedMask)

namespace NotifierSignal

/-- Modelled from the spec: `idle_signal()`, never active. -/
def idleSignal : NotifierSignal := ⟨.staticValue, 0⟩

/-- Modelled from the spec: `busy_signal()`, always active. -/
def busySignal : NotifierSignal := ⟨.staticValue, trueMask⟩

/-- Modelled from the spec: `overderived_signal()`, always active and flagged imprecise. -/
def overderivedSignal : NotifierSignal := ⟨.staticValue, trueMask ||| overderivedMask⟩

/-- Modelled from the spec: the default-constructed `NotifierSignal()`, uninitialized. -/
def uninitialized : NotifierSignal := ⟨.null, 0⟩

/-- Modelled from the spec: `initialized()`, the pointer is not null. -/
def initialized (s : NotifierSignal) : Bool := s.value ≠ .null

/-- Modelled from the spec: `active()`, some selected bit of the word is set. -/
def active (words : SignalWords) (s : NotifierSignal) : Bool := words s.value &&& s.mask != 0

/-- Modelled from the spec: `operator==`, both uninitialized or the same word and mask. -/
def equal (a b : NotifierSignal) : Bool :=
  (!a.initialized && !b.initialized) || (a.value = b.value && a.mask = b.mask)

/-- `NotifierSignal::operator+=`. -/
def addAssign (self a : NotifierSignal) : NotifierSignal :=
  let self := if self.mask = 0 then { self with value := a.value } else self
  if self.equal busySignal then self
  else if a.equal busySignal then a
  else if self.value = a.value ∨ a.mask = 0 then { self with mask := self.mask ||| a.mask }
  else overderivedSignal

/-- `operator+`: a copy of the left operand, then `+=`. -/
instance : Add NotifierSignal := ⟨addAssign⟩

theorem add_def (l r : NotifierSignal) : l + r = l.addAssign r := rfl

@[simp] theorem equal_busySignal (s : NotifierSignal) : s.equal busySignal = decide (s = busySignal) := by
  obtain ⟨value, mask⟩ := s
  cases value <;> simp [equal, initialized, busySignal]

private theorem adopt_ne_busySignal (v : WordPtr) : (⟨v, 0⟩ : NotifierSignal) ≠ busySignal := by
  simp [busySignal, trueMask]

/-- `+=` in one case split: an empty left mask adopts the right operand, busy absorbs, equal
words (or an empty right mask) join their masks, and anything else is overderived. -/
theorem add_eq (l r : NotifierSignal) :
    l + r = if l.mask = 0 then r
      else if l = busySignal ∨ r = busySignal then busySignal
      else if l.value = r.value ∨ r.mask = 0 then ⟨l.value, l.mask ||| r.mask⟩
      else overderivedSignal := by
  by_cases hl : l.mask = 0
  · have : (⟨r.value, l.mask⟩ : NotifierSignal) ≠ busySignal := hl ▸ adopt_ne_busySignal r.value
    simp only [add_def, addAssign, hl, if_true, equal_busySignal, decide_eq_true_eq, this]
    split_ifs <;> simp_all
  · simp only [add_def, addAssign, hl, if_false, equal_busySignal, decide_eq_true_eq]
    split_ifs <;> simp_all

@[simp] theorem mask_or_eq_zero (p q : BitVec 32) : p ||| q = 0#32 ↔ p = 0#32 ∧ q = 0#32 := by
  refine ⟨fun h => ?_, fun ⟨hp, hq⟩ => by simp [hp, hq]⟩
  have bits (i : Nat) : p.getLsbD i = false ∧ q.getLsbD i = false := by
    simpa using congrArg (BitVec.getLsbD · i) h
  exact ⟨by ext i; simp [(bits i).1], by ext i; simp [(bits i).2]⟩

theorem and_or_ne_zero (x a b : BitVec 32) :
    (x &&& (a ||| b) != 0) = (x &&& a != 0 || x &&& b != 0) := by
  have distrib : x &&& (a ||| b) = (x &&& a) ||| (x &&& b) := by
    ext i; simp [Bool.and_or_distrib_left]
  rw [distrib, Bool.eq_iff_iff]
  simp only [Bool.or_eq_true, bne_iff_ne, ne_eq, BitVec.ofNat_eq_ofNat, mask_or_eq_zero, not_and_or]

@[simp] theorem active_join (words : SignalWords) (value : WordPtr) (a b : BitVec 32) :
    active words ⟨value, a ||| b⟩ = (active words ⟨value, a⟩ || active words ⟨value, b⟩) :=
  and_or_ne_zero _ _ _

@[simp] theorem active_of_mask_zero (words : SignalWords) (value : WordPtr) :
    active words ⟨value, 0#32⟩ = false := by simp [active]

@[simp] theorem active_busySignal (words : SignalWords) :
    busySignal.active (staticInitialize words) = true := by
  simp [active, busySignal, staticInitialize]; decide

@[simp] theorem active_overderivedSignal (words : SignalWords) :
    overderivedSignal.active (staticInitialize words) = true := by
  simp [active, overderivedSignal, staticInitialize]; decide

section Activity

variable (words : SignalWords) (l r : NotifierSignal)

theorem active_add_exact_or_overderived :
    (l + r).active (staticInitialize words) =
        (l.active (staticInitialize words) || r.active (staticInitialize words)) ∨
      l + r = overderivedSignal ∧ l ≠ busySignal ∧ r ≠ busySignal ∧
        l.mask ≠ 0 ∧ r.mask ≠ 0 ∧ l.value ≠ r.value := by
  rw [add_eq]
  split_ifs with empty busy join
  · obtain ⟨lv, lm⟩ := l
    simp only at empty
    subst empty
    simp
  · rcases busy with rfl | rfl <;> simp
  · obtain ⟨lv, lm⟩ := l
    obtain ⟨rv, rm⟩ := r
    simp only at join
    rcases join with same | zero
    · subst same; simp
    · subst zero; simp
  · simp only [not_or] at busy join
    exact .inr ⟨rfl, busy.1, busy.2, empty, join.2, join.1⟩

theorem active_add_of_active
    (active : (l.active (staticInitialize words) || r.active (staticInitialize words)) = true) :
    (l + r).active (staticInitialize words) = true := by
  rcases active_add_exact_or_overderived words l r with exact | ⟨over, -⟩
  · rw [exact, active]
  · rw [over, active_overderivedSignal]

theorem active_add_exact (compatible : l.value = r.value ∨ l.mask = 0 ∨ r.mask = 0) :
    (l + r).active (staticInitialize words) =
      (l.active (staticInitialize words) || r.active (staticInitialize words)) := by
  rcases active_add_exact_or_overderived words l r with exact | ⟨-, -, -, hl, hr, hv⟩
  · exact exact
  · rcases compatible with h | h | h <;> contradiction

/-- `+=` loses no activity: the sum is exact or overderived, overderived only from two
non-busy operands with nonzero masks over different words. -/
theorem addAssign_activity :
    ((l + r).active (staticInitialize words) =
        (l.active (staticInitialize words) || r.active (staticInitialize words)) ∨
      l + r = overderivedSignal ∧ l ≠ busySignal ∧ r ≠ busySignal ∧
        l.mask ≠ 0 ∧ r.mask ≠ 0 ∧ l.value ≠ r.value) ∧
    ((l.active (staticInitialize words) || r.active (staticInitialize words)) = true →
      (l + r).active (staticInitialize words) = true) ∧
    (l.value = r.value ∨ l.mask = 0 ∨ r.mask = 0 →
      (l + r).active (staticInitialize words) =
        (l.active (staticInitialize words) || r.active (staticInitialize words))) :=
  ⟨active_add_exact_or_overderived words l r, active_add_of_active words l r,
    active_add_exact words l r⟩

end Activity

end NotifierSignal
end ClickNotifier
