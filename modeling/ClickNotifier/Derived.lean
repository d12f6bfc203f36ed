import ClickNotifier.Signal
import Mathlib.Data.Finset.Lattice.Fold

/-!
# Derived signals form a join-semilattice

On initialized signals (the canonical ones and nonzero masks over router words) `+=` is
commutative, associative and idempotent with `idle_signal()` as identity, so the signal a
search derives depends only on the set of signals it combined, not on the order of the walk
or on a notifier being combined twice.
-/

namespace ClickNotifier.NotifierSignal

/-- Initialized signals: the canonical signals and nonzero masks over router words. -/
inductive Proper : NotifierSignal → Prop
  | idle : Proper idleSignal
  | busy : Proper busySignal
  | overderived : Proper overderivedSignal
  | basic (addr : Nat) (mask : BitVec 32) (nonzero : mask ≠ 0) : Proper ⟨.word addr, mask⟩

@[simp] theorem idleSignal_add (r : NotifierSignal) : idleSignal + r = r := by
  simp [add_eq, idleSignal]

@[simp] theorem busySignal_add (r : NotifierSignal) : busySignal + r = busySignal := by
  simp [add_eq, busySignal, trueMask]

@[simp] theorem add_busySignal (l : NotifierSignal) : l + busySignal = busySignal := by
  rw [add_eq]; split_ifs <;> simp_all

@[simp] theorem add_self (s : NotifierSignal) : s + s = s := by
  rw [add_eq]; split_ifs <;> simp_all

theorem add_idleSignal {l : NotifierSignal} (h : Proper l) : l + idleSignal = l := by
  cases h <;> simp_all [add_eq, idleSignal, busySignal, overderivedSignal, trueMask, overderivedMask]

theorem overderivedSignal_add {r : NotifierSignal} (h : Proper r) (hr : r ≠ busySignal) :
    overderivedSignal + r = overderivedSignal := by
  cases h <;> simp_all [add_eq, idleSignal, busySignal, overderivedSignal, trueMask, overderivedMask]

theorem add_overderivedSignal {l : NotifierSignal} (h : Proper l) (hl : l ≠ busySignal) :
    l + overderivedSignal = overderivedSignal := by
  cases h <;> simp_all [add_eq, idleSignal, busySignal, overderivedSignal, trueMask, overderivedMask]

theorem basic_add_basic (a b : Nat) {m n : BitVec 32} (hm : m ≠ 0) (hn : n ≠ 0) :
    (⟨.word a, m⟩ : NotifierSignal) + ⟨.word b, n⟩ =
      if a = b then ⟨.word a, m ||| n⟩ else overderivedSignal := by
  by_cases hab : a = b <;> simp_all [add_eq, busySignal]

@[simp] theorem overderivedSignal_add_idleSignal : overderivedSignal + idleSignal = overderivedSignal := by
  decide

@[simp] theorem overderivedSignal_add_basic (a : Nat) {m : BitVec 32} (hm : m ≠ 0) :
    overderivedSignal + ⟨.word a, m⟩ = overderivedSignal :=
  overderivedSignal_add (.basic a m hm) (by simp [busySignal])

@[simp] theorem basic_add_idleSignal (a : Nat) {m : BitVec 32} (hm : m ≠ 0) :
    (⟨.word a, m⟩ : NotifierSignal) + idleSignal = ⟨.word a, m⟩ :=
  add_idleSignal (.basic a m hm)

@[simp] theorem basic_add_overderivedSignal (a : Nat) {m : BitVec 32} (hm : m ≠ 0) :
    (⟨.word a, m⟩ : NotifierSignal) + overderivedSignal = overderivedSignal :=
  add_overderivedSignal (.basic a m hm) (by simp [busySignal])

theorem Proper.add {l r : NotifierSignal} (hl : Proper l) (hr : Proper r) : Proper (l + r) := by
  cases hl <;> cases hr <;> simp_all [basic_add_basic]
  all_goals first | constructor | split_ifs <;> constructor
  all_goals simp_all

theorem add_comm_of_proper {l r : NotifierSignal} (hl : Proper l) (hr : Proper r) : l + r = r + l := by
  cases hl <;> cases hr <;> simp_all [basic_add_basic]
  split_ifs <;> simp_all [BitVec.or_comm]

theorem add_assoc_of_proper {l r t : NotifierSignal} (hl : Proper l) (hr : Proper r) (ht : Proper t) :
    l + r + t = l + (r + t) := by
  cases hl <;> cases hr <;> cases ht <;>
    simp (disch := assumption) only [idleSignal_add, busySignal_add, add_busySignal, add_self,
      overderivedSignal_add_idleSignal, overderivedSignal_add_basic, basic_add_idleSignal,
      basic_add_overderivedSignal, basic_add_basic]
  all_goals split_ifs <;> simp_all [basic_add_basic, BitVec.or_assoc]

/-- Initialized signals, carrying the proof that they are. -/
def ProperSignal := {s : NotifierSignal // Proper s}

instance : DecidableEq ProperSignal := inferInstanceAs (DecidableEq {s // Proper s})

instance : Max ProperSignal := ⟨fun a b => ⟨a.1 + b.1, a.2.add b.2⟩⟩

instance : SemilatticeSup ProperSignal :=
  SemilatticeSup.mk' (fun a b => Subtype.ext (add_comm_of_proper a.2 b.2))
    (fun a b c => Subtype.ext (add_assoc_of_proper a.2 b.2 c.2)) (fun a => Subtype.ext (add_self a.1))

instance : OrderBot ProperSignal where
  bot := ⟨idleSignal, .idle⟩
  bot_le a := Subtype.ext (idleSignal_add a.1)

theorem foldl_add_val (l : List ProperSignal) (acc : ProperSignal) :
    (l.map Subtype.val).foldl (· + ·) acc.1 = (l.foldl (· ⊔ ·) acc).1 := by
  induction l generalizing acc with
  | nil => rfl
  | cons s l ih => exact ih (acc ⊔ s)

theorem foldl_add_eq_sup (l : List ProperSignal) :
    (l.map Subtype.val).foldl (· + ·) idleSignal = (l.toFinset.sup id).1 := by
  rw [← List.foldr_sup_eq_sup_toFinset, ← List.foldl_eq_foldr]
  exact foldl_add_val l ⊥

@[simp] theorem equal_self (s : NotifierSignal) : s.equal s = true := by
  simp [equal]

/-- Folding `+=` from `idle_signal()` over two lists of initialized signals with the same
members gives equal signals, whatever the order and the repetitions. -/
theorem derived_eq_of_same_members (l₁ l₂ : List ProperSignal) (same : ∀ s, s ∈ l₁ ↔ s ∈ l₂) :
    ((l₁.map Subtype.val).foldl (· + ·) idleSignal).equal
      ((l₂.map Subtype.val).foldl (· + ·) idleSignal) = true := by
  have members : l₁.toFinset = l₂.toFinset := Finset.ext fun s => by simpa using same s
  rw [foldl_add_eq_sup, foldl_add_eq_sup, members, equal_self]

theorem derived_eq_reordered :
    let b₁ : ProperSignal := ⟨⟨.word 0, 1⟩, .basic 0 1 (by decide)⟩
    let b₂ : ProperSignal := ⟨⟨.word 0, 2⟩, .basic 0 2 (by decide)⟩
    (∀ s, s ∈ [b₁, b₂] ↔ s ∈ [b₂, b₁, b₁]) ∧
      (([b₁, b₂].map Subtype.val).foldl (· + ·) idleSignal).equal
        (([b₂, b₁, b₁].map Subtype.val).foldl (· + ·) idleSignal) = true := by
  intro b₁ b₂
  have same : ∀ s, s ∈ [b₁, b₂] ↔ s ∈ [b₂, b₁, b₁] := fun s => by
    simp only [List.mem_cons, List.mem_singleton, or_self, List.not_mem_nil, or_false]
    exact or_comm
  exact ⟨same, derived_eq_of_same_members _ _ same⟩

end ClickNotifier.NotifierSignal
