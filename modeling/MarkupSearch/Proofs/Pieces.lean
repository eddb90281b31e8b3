/-
# Pieces between separators

A text falls apart at a separator: the pieces of what stands before it come first, then those of
what stands behind it (`Text.piecesAt_append_cons`). Everything about pieces follows from that one
equation, since a text without separators is a single piece, or none when it is empty. Pieces that
are written with one separator between two of them are therefore found again
(`Text.piecesAt_intercalate`).

Key theorems: `Text.piecesAt_append_cons`, `Text.piecesAt_intercalate`, `Text.piecesAt_eq_nil_iff`.
-/
import Mathlib.Data.List.Basic
import MarkupSearch.Text.Blank

namespace MarkupSearch
namespace Text

variable {sep : Char → Bool}

/-- There is always a first piece, even if it is empty. -/
theorem exists_splitAt_eq_cons (sep : Char → Bool) (cs : List Char) :
    ∃ p ps, splitAt sep cs = p :: ps := by
  induction cs with
  | nil => exact ⟨[], [], rfl⟩
  | cons c cs ih =>
    obtain ⟨p, ps, h⟩ := ih
    rw [splitAt_cons, h]
    by_cases hc : sep c
    · rw [if_pos hc]
      exact ⟨[], p :: ps, rfl⟩
    · rw [if_neg hc]
      exact ⟨c :: p, ps, rfl⟩

/-- A text falls apart at a separator. -/
theorem splitAt_append_cons {c : Char} (hc : sep c) (xs ys : List Char) :
    splitAt sep (xs ++ c :: ys) = splitAt sep xs ++ splitAt sep ys := by
  induction xs with
  | nil => rw [List.nil_append, splitAt_cons, if_pos hc, splitAt_nil, List.singleton_append]
  | cons x xs ih =>
    rw [List.cons_append, splitAt_cons, splitAt_cons, ih]
    by_cases hx : sep x
    · rw [if_pos hx, if_pos hx, List.cons_append]
    · obtain ⟨p, ps, h⟩ := exists_splitAt_eq_cons sep xs
      rw [if_neg hx, if_neg hx, h]
      rfl

theorem splitAt_of_forall {cs : List Char} (h : ∀ c ∈ cs, sep c = false) :
    splitAt sep cs = [cs] := by
  induction cs with
  | nil => rfl
  | cons c cs ih =>
    have hc : ¬ sep c = true := by simp [h c List.mem_cons_self]
    rw [splitAt_cons, if_neg hc, ih fun d hd => h d (List.mem_cons_of_mem c hd)]
    rfl

theorem not_sep_of_mem_splitAt : ∀ {cs p : List Char}, p ∈ splitAt sep cs → ∀ c ∈ p, sep c = false
  | [], p, hp => by
    rw [splitAt_nil, List.mem_singleton] at hp
    subst hp
    simp
  | x :: xs, p, hp => by
    rw [splitAt_cons] at hp
    by_cases hx : sep x
    · rw [if_pos hx] at hp
      rcases List.mem_cons.mp hp with rfl | hp
      · simp
      · exact not_sep_of_mem_splitAt hp
    · obtain ⟨q, qs, hq⟩ := exists_splitAt_eq_cons sep xs
      rw [if_neg hx, hq, onFirst] at hp
      rcases List.mem_cons.mp hp with rfl | hp
      · intro c hc
        rcases List.mem_cons.mp hc with rfl | hc
        · simpa using hx
        · exact not_sep_of_mem_splitAt (hq ▸ List.mem_cons_self) c hc
      · exact not_sep_of_mem_splitAt (hq ▸ List.mem_cons_of_mem q hp)

/-! ### The pieces that are not empty -/

/-- **Pieces fall apart at a separator**, which belongs to none of them. -/
theorem piecesAt_append_cons {c : Char} (hc : sep c) (xs ys : List Char) :
    piecesAt sep (xs ++ c :: ys) = piecesAt sep xs ++ piecesAt sep ys := by
  rw [piecesAt, splitAt_append_cons hc, List.filter_append]
  rfl

theorem piecesAt_cons {c : Char} (hc : sep c) (cs : List Char) :
    piecesAt sep (c :: cs) = piecesAt sep cs :=
  piecesAt_append_cons hc [] cs

theorem piecesAt_of_forall {cs : List Char} (hne : cs ≠ []) (h : ∀ c ∈ cs, sep c = false) :
    piecesAt sep cs = [cs] := by
  rw [piecesAt, splitAt_of_forall h]
  simpa using hne

/-- A piece is not empty, and no separator stands in it. -/
theorem of_mem_piecesAt {cs p : List Char} (h : p ∈ piecesAt sep cs) :
    p ≠ [] ∧ ∀ c ∈ p, sep c = false := by
  obtain ⟨hp, hne⟩ := List.mem_filter.mp h
  exact ⟨by simpa using hne, not_sep_of_mem_splitAt hp⟩

/-- There is no piece exactly when there is nothing but separators. -/
theorem piecesAt_eq_nil_iff {cs : List Char} : piecesAt sep cs = [] ↔ ∀ c ∈ cs, sep c = true := by
  induction cs with
  | nil => simp [piecesAt]
  | cons c cs ih =>
    by_cases hc : sep c
    · rw [piecesAt_cons hc, ih, List.forall_mem_cons]
      exact (and_iff_right hc).symm
    · obtain ⟨p, ps, hp⟩ := exists_splitAt_eq_cons sep cs
      rw [piecesAt, splitAt_cons, if_neg hc, hp]
      simp [onFirst, hc]

/-- Pieces with a separator between two of them are found again. -/
theorem piecesAt_intercalate {c : Char} (hc : sep c) {ps : List (List Char)}
    (h : ∀ p ∈ ps, p ≠ [] ∧ ∀ d ∈ p, sep d = false) :
    piecesAt sep ([c].intercalate ps) = ps := by
  induction ps with
  | nil => rfl
  | cons p ps ih =>
    obtain ⟨hne, hp⟩ := h p List.mem_cons_self
    cases ps with
    | nil => rw [List.intercalate_singleton, piecesAt_of_forall hne hp]
    | cons q ps =>
      rw [List.intercalate_cons_cons, List.append_assoc, List.singleton_append,
        piecesAt_append_cons hc, piecesAt_of_forall hne hp,
        ih fun r hr => h r (List.mem_cons_of_mem p hr), List.singleton_append]

end Text
end MarkupSearch
