import Mathlib.Data.List.Basic

namespace AndroidMessenger.Library

/-! Searching a list from its end, and cutting it after the last occurrence. -/

variable {α : Type*} [DecidableEq α]

def rfind (target : α) : List α → Option Nat
  | [] => none
  | head :: tail =>
      match rfind target tail with
      | some index => some (index + 1)
      | none => if head = target then some 0 else none

theorem rfind_eq_none_iff {target : α} {list : List α} :
    rfind target list = none ↔ target ∉ list := by
  induction list with
  | nil => simp [rfind]
  | cons head tail ih =>
      cases htail : rfind target tail with
      | some index =>
          have hmem : target ∈ tail := by
            rw [htail] at ih
            simpa using ih
          simp [rfind, htail, hmem]
      | none =>
          have hnot : target ∉ tail := ih.mp htail
          simp [rfind, htail, hnot, eq_comm]

theorem rfind_append_cons {target : α} (initial : List α) {rest : List α}
    (hrest : target ∉ rest) :
    rfind target (initial ++ target :: rest) = some initial.length := by
  induction initial with
  | nil => simp [rfind, rfind_eq_none_iff.mpr hrest]
  | cons head tail ih => simp [rfind, ih]

theorem exists_of_rfind_eq_some {target : α} {list : List α} {index : Nat}
    (h : rfind target list = some index) :
    ∃ initial rest, list = initial ++ target :: rest ∧ target ∉ rest ∧
      index = initial.length := by
  induction list generalizing index with
  | nil => simp [rfind] at h
  | cons head tail ih =>
      cases htail : rfind target tail with
      | some position =>
          obtain ⟨initial, rest, hlist, hrest, hposition⟩ := ih htail
          refine ⟨head :: initial, rest, by rw [hlist]; rfl, hrest, ?_⟩
          simp only [rfind, htail, Option.some.injEq] at h
          simp [← h, hposition]
      | none =>
          simp only [rfind, htail] at h
          split at h
          · rename_i heq
            subst heq
            exact ⟨[], tail, rfl, rfind_eq_none_iff.mp htail, by
              simpa using h.symm⟩
          · contradiction

/-- Drop what follows the last occurrence of the target, keeping the list whole
when there is none. -/
def eraseAfterLast (target : α) (list : List α) : List α :=
  match rfind target list with
  | some index => list.take (index + 1)
  | none => list

theorem eraseAfterLast_of_notMem {target : α} {list : List α}
    (h : target ∉ list) : eraseAfterLast target list = list := by
  simp [eraseAfterLast, rfind_eq_none_iff.mpr h]

theorem eraseAfterLast_append_cons {target : α} (initial : List α)
    {rest : List α} (hrest : target ∉ rest) :
    eraseAfterLast target (initial ++ target :: rest) = initial ++ [target] := by
  have hlength : initial.take (initial.length + 1) = initial :=
    List.take_of_length_le (Nat.le_succ _)
  simp [eraseAfterLast, rfind_append_cons initial hrest, List.take_append, hlength]

theorem eraseAfterLast_append_of_notMem {target : α} (initial : List α)
    {rest : List α} (hmem : target ∈ initial) (hrest : target ∉ rest) :
    eraseAfterLast target (initial ++ rest) = eraseAfterLast target initial := by
  cases hfound : rfind target initial with
  | none => exact absurd hmem (rfind_eq_none_iff.mp hfound)
  | some index =>
      obtain ⟨start, finish, rfl, hfinish, _⟩ := exists_of_rfind_eq_some hfound
      rw [eraseAfterLast_append_cons start hfinish, List.append_assoc,
        List.cons_append]
      exact eraseAfterLast_append_cons start (by simp [hfinish, hrest])

theorem eraseAfterLast_append_of_mem {target : α} (initial : List α)
    {rest : List α} (hmem : target ∈ rest) :
    eraseAfterLast target (initial ++ rest) =
      initial ++ eraseAfterLast target rest := by
  cases hfound : rfind target rest with
  | none => exact absurd hmem (rfind_eq_none_iff.mp hfound)
  | some index =>
      obtain ⟨start, finish, rfl, hfinish, _⟩ := exists_of_rfind_eq_some hfound
      rw [eraseAfterLast_append_cons start hfinish, ← List.append_assoc,
        eraseAfterLast_append_cons (initial ++ start) hfinish, List.append_assoc]

theorem getLast?_eraseAfterLast {target : α} {list : List α} (hmem : target ∈ list) :
    (eraseAfterLast target list).getLast? = some target := by
  cases hfound : rfind target list with
  | none => exact absurd hmem (rfind_eq_none_iff.mp hfound)
  | some index =>
      obtain ⟨start, finish, rfl, hfinish, _⟩ := exists_of_rfind_eq_some hfound
      rw [eraseAfterLast_append_cons start hfinish, List.getLast?_concat]

theorem exists_eraseAfterLast_append (target : α) (list : List α) :
    ∃ rest, list = eraseAfterLast target list ++ rest ∧ target ∉ rest := by
  cases hfound : rfind target list with
  | none =>
      rw [eraseAfterLast_of_notMem (rfind_eq_none_iff.mp hfound)]
      exact ⟨[], (List.append_nil _).symm, List.not_mem_nil⟩
  | some index =>
      obtain ⟨start, finish, rfl, hfinish, _⟩ := exists_of_rfind_eq_some hfound
      rw [eraseAfterLast_append_cons start hfinish]
      exact ⟨finish, by simp, hfinish⟩

theorem eraseAfterLast_concat (target : α) (initial : List α) :
    eraseAfterLast target (initial ++ [target]) = initial ++ [target] :=
  eraseAfterLast_append_cons initial List.not_mem_nil

theorem mem_eraseAfterLast_iff {target : α} {list : List α} :
    target ∈ eraseAfterLast target list ↔ target ∈ list := by
  cases hfound : rfind target list with
  | none => rw [eraseAfterLast_of_notMem (rfind_eq_none_iff.mp hfound)]
  | some index =>
      obtain ⟨start, finish, rfl, hfinish, _⟩ := exists_of_rfind_eq_some hfound
      rw [eraseAfterLast_append_cons start hfinish]
      simp

theorem eraseAfterLast_prefix_self (target : α) (list : List α) :
    eraseAfterLast target list <+: list := by
  unfold eraseAfterLast
  split
  · exact List.take_prefix _ _
  · exact List.prefix_rfl

theorem mem_eraseAfterLast_iff_before {target element : α} {list : List α}
    (hne : element ≠ target) (hmem : target ∈ list) :
    element ∈ eraseAfterLast target list ↔
      ∃ front back, list = front ++ target :: back ∧ element ∈ front := by
  constructor
  · intro helement
    cases hfound : rfind target list with
    | none => exact absurd hmem (rfind_eq_none_iff.mp hfound)
    | some index =>
        obtain ⟨start, finish, rfl, hfinish, _⟩ := exists_of_rfind_eq_some hfound
        rw [eraseAfterLast_append_cons start hfinish, List.mem_append] at helement
        rcases helement with hstart | hlast
        · exact ⟨start, finish, rfl, hstart⟩
        · exact absurd (List.mem_singleton.mp hlast) hne
  · intro given
    rcases given with ⟨front, back, rfl, hfront⟩
    rw [eraseAfterLast_append_of_mem front List.mem_cons_self]
    exact List.mem_append_left _ hfront

end AndroidMessenger.Library
