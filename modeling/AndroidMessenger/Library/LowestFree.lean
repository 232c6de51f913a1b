import Mathlib.Data.Finset.Card
import Mathlib.Data.Nat.Nth

namespace AndroidMessenger.Library

/-! Numbers that are handed out lowest first and never given back. -/

variable {taken : Finset Nat}

/-- The number that is handed out after `count` others. -/
noncomputable def handedOut (taken : Finset Nat) (count : Nat) : Nat :=
  Nat.nth (fun number => number ∉ taken) count

theorem infinite_free (taken : Finset Nat) :
    (Set.ofPred fun number => number ∉ taken).Infinite :=
  taken.finite_toSet.infinite_compl

theorem handedOut_notMem (taken : Finset Nat) (count : Nat) : handedOut taken count ∉ taken :=
  Nat.nth_mem_of_infinite (infinite_free taken) count

theorem handedOut_strictMono (taken : Finset Nat) : StrictMono (handedOut taken) :=
  Nat.nth_strictMono (infinite_free taken)

theorem exists_handedOut {number : Nat} (free : number ∉ taken) :
    ∃ count, handedOut taken count = number :=
  ⟨Nat.count (fun number => number ∉ taken) number, Nat.nth_count free⟩

theorem isLeast_free_iff {held : Finset Nat} {count : Nat}
    (holds : ∀ number, number ∈ held ↔
      number ∈ taken ∨ ∃ earlier < count, handedOut taken earlier = number) (number : Nat) :
    IsLeast { number | number ∉ held } number ↔ number = handedOut taken count := by
  have least : IsLeast { number | number ∉ held } (handedOut taken count) := by
    constructor
    · intro inside
      rcases (holds _).mp inside with inherited | ⟨earlier, below, same⟩
      · exact handedOut_notMem taken count inherited
      · exact absurd same (Nat.ne_of_lt (handedOut_strictMono taken below))
    · intro other free
      have unheld : ¬ (other ∈ taken ∨ ∃ earlier < count, handedOut taken earlier = other) :=
        fun given => free ((holds other).mpr given)
      rw [not_or] at unheld
      obtain ⟨position, rfl⟩ := exists_handedOut unheld.1
      apply (handedOut_strictMono taken).monotone
      apply Nat.le_of_not_lt
      intro below
      exact unheld.2 ⟨position, below, rfl⟩
  constructor
  · intro other
    exact other.unique least
  · rintro rfl
    exact least

/-- The lowest number that is not taken, of which there is one up to the size of the set. -/
def lowest (taken : Finset Nat) : Nat :=
  ((List.range (taken.card + 1)).find? fun number => number ∉ taken).getD 0

theorem isLeast_lowest (taken : Finset Nat) :
    IsLeast { number | number ∉ taken } (lowest taken) := by
  obtain ⟨free, inside, untaken⟩ := @Finset.exists_mem_notMem_of_card_lt_card _ taken
    (Finset.range (taken.card + 1)) (by simp)
  unfold lowest
  cases found : (List.range (taken.card + 1)).find? fun number => number ∉ taken with
  | none =>
      have missed := List.find?_eq_none.mp found free (by simpa using inside)
      simp [untaken] at missed
  | some first =>
      obtain ⟨unheld, _, earlier⟩ := List.find?_range_eq_some.mp found
      constructor
      · simpa using unheld
      · intro other unheldOther
        apply Nat.le_of_not_lt
        intro below
        exact unheldOther (by simpa using earlier other below)

theorem count_free_add (taken : Finset Nat) (bound : Nat) :
    Nat.count (fun number => number ∉ taken) bound + (taken.filter (· < bound)).card =
      bound := by
  have inside : taken.filter (· < bound) = (Finset.range bound).filter (· ∈ taken) := by
    ext number
    simp [and_comm]
  rw [Nat.count_eq_card_filter_range, inside, Nat.add_comm,
    Finset.card_filter_add_card_filter_not, Finset.card_range]

theorem handedOut_lt_iff {count bound : Nat} :
    handedOut taken count < bound ↔ (taken.filter (· < bound)).card + count < bound := by
  have total := count_free_add taken bound
  rw [handedOut, ← Nat.lt_nth_iff_count_lt (infinite_free taken)]
  omega

theorem handedOut_range (first count : Nat) :
    handedOut (Finset.range first) count = first + count := by
  apply le_antisymm
  · apply Nat.le_of_lt_succ
    rw [handedOut_lt_iff]
    have whole : (Finset.range first).filter (· < first + count + 1) = Finset.range first := by
      apply Finset.filter_true_of_mem
      intro number inside
      have below := Finset.mem_range.mp inside
      omega
    rw [whole, Finset.card_range]
    omega
  · apply Nat.le_of_not_lt
    rw [handedOut_lt_iff]
    intro below
    have most : ((Finset.range first).filter (· < first + count)).card = first := by
      rw [Finset.filter_true_of_mem, Finset.card_range]
      intro number inside
      have below := Finset.mem_range.mp inside
      omega
    omega

end AndroidMessenger.Library
