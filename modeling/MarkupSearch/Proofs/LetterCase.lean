/-
# Letter case and the marks of a text

Lowercasing goes character by character, and may make several characters out of one. It keeps the
characters that a selector or a list of classes is read by, ASCII white space, the dot and the star
(`Text.isMark`), makes none of them out of another character (`Text.isMark_of_mem_lower`) and makes
something out of every character (`Text.lower_ne_nil`). So it does not matter whether a text is
lowered before or after it is parted (`Text.piecesAt_flatMap_lower`), and texts that differ in
letter case only have words that differ in letter case only.

Key definition: `Text.isMark`.
Key theorems: `Text.isMark_of_mem_lower`, `Text.piecesAt_flatMap_lower`, `Text.map_lowered_words`.
-/
import MarkupSearch.Proofs.Pieces
import MarkupSearch.Text.Case

namespace MarkupSearch
namespace Text

/-- The characters by which texts are parted and tokens are told apart. -/
def isMark (c : Char) : Bool := isSpace c || c = '.' || c = '*'

theorem not_isMark_of_le {c : Char} (h : 0x2F ≤ c.toNat) : isMark c = false := by
  have ne : ∀ d : Char, d.toNat < 0x2F → c ≠ d := by
    rintro d hd rfl
    omega
  simp only [isMark, isSpace, Bool.or_eq_false_iff, decide_eq_false_iff_not]
  exact ⟨⟨⟨⟨⟨⟨ne _ (by decide), ne _ (by decide)⟩, ne _ (by decide)⟩, ne _ (by decide)⟩,
    ne _ (by decide)⟩, ne _ (by decide)⟩, ne _ (by decide)⟩

theorem lt_of_isMark {c : Char} (h : isMark c = true) : c.toNat < 0x2F := by
  by_contra hc
  rw [not_isMark_of_le (Nat.le_of_not_lt hc)] at h
  exact absurd h (by decide)

/-! ### What lowercasing keeps -/

theorem le_of_isUpper {c : Char} (h : c.isUpper = true) : 0x41 ≤ c.toNat := by
  have bounds : 'A'.val ≤ c.val ∧ c.val ≤ 'Z'.val := of_decide_eq_true h
  exact UInt32.le_iff_toNat_le.mp bounds.1

theorem asciiLower_of_isMark {c : Char} (h : isMark c = true) : asciiLower c = c := by
  have hc := lt_of_isMark h
  refine if_neg fun hu => ?_
  have := le_of_isUpper hu
  omega

/-- Marks are kept as they are. -/
theorem lower_of_isMark {c : Char} (h : isMark c = true) : lower c = [c] := by
  have hc := lt_of_isMark h
  rw [lower, if_pos (by omega), asciiLower_of_isMark h]

/-- Something is made out of every character. -/
theorem lower_ne_nil (c : Char) : lower c ≠ [] := by
  unfold lower
  split
  · simp
  · split
    · simp
    · split <;> simp

/-- A number that no mark has gives no mark, nor does one that no character has. -/
theorem not_isMark_ofNat {n : Nat} (h : 0x2F ≤ n) : isMark (Char.ofNat n) = false := by
  by_cases hn : n.isValidChar
  · rw [Char.ofNat, dif_pos hn]
    exact not_isMark_of_le h
  · rw [Char.ofNat, dif_neg hn]
    decide

theorem not_isMark_asciiLower {c : Char} (h : isMark c = false) :
    isMark (asciiLower c) = false := by
  unfold asciiLower
  split
  · next hu =>
    have := le_of_isUpper hu
    exact not_isMark_ofNat (by omega)
  · exact h

/-- The small letters of the table come after all marks. -/
theorem le_target_of_mem_caseRuns : ∀ r ∈ caseRuns, 0x2F ≤ r.target := by
  decide +kernel

/-- **A mark is made out of itself only.** -/
theorem isMark_of_mem_lower {c d : Char} (hd : d ∈ lower c) : isMark d = isMark c := by
  by_cases hc : isMark c = true
  · rw [lower_of_isMark hc, List.mem_singleton] at hd
    rw [hd]
  · rw [Bool.not_eq_true] at hc
    rw [hc]
    unfold lower at hd
    split at hd
    · rw [List.mem_singleton.mp hd]
      exact not_isMark_asciiLower hc
    · split at hd
      · rcases List.mem_pair.mp hd with rfl | rfl
        · decide
        · decide
      · split at hd
        · next r hr =>
          have := le_target_of_mem_caseRuns r (List.mem_of_find?_eq_some hr)
          rw [List.mem_singleton.mp hd]
          exact not_isMark_ofNat (by omega)
        · rw [List.mem_singleton.mp hd]
          exact hc

/-- A text that is lowered begins with a mark only when it began with it before. -/
theorem exists_cons_of_flatMap_lower {cs ds : List Char} {m : Char} (hm : isMark m = true)
    (h : cs.flatMap lower = m :: ds) : ∃ cs', cs = m :: cs' ∧ cs'.flatMap lower = ds := by
  cases cs with
  | nil => simp at h
  | cons c cs =>
    obtain ⟨d, rest, hc⟩ := List.exists_cons_of_ne_nil (lower_ne_nil c)
    rw [List.flatMap_cons, hc, List.cons_append, List.cons.injEq] at h
    obtain ⟨rfl, h⟩ := h
    have : isMark c = true := by rw [← isMark_of_mem_lower (hc ▸ List.mem_cons_self), hm]
    rw [lower_of_isMark this, List.cons.injEq] at hc
    obtain ⟨rfl, rfl⟩ := hc
    exact ⟨cs, rfl, h⟩

theorem flatMap_lower_eq_nil_iff {cs : List Char} : cs.flatMap lower = [] ↔ cs = [] := by
  cases cs with
  | nil => simp
  | cons c cs => simp [lower_ne_nil c]

/-! ### Parting a text that is lowered -/

section

variable {sep : Char → Bool}

theorem splitAt_append_of_forall {xs ys p : List Char} {ps : List (List Char)}
    (hx : ∀ c ∈ xs, sep c = false) (hy : splitAt sep ys = p :: ps) :
    splitAt sep (xs ++ ys) = (xs ++ p) :: ps := by
  induction xs with
  | nil => exact hy
  | cons x xs ih =>
    have hne : ¬ sep x = true := by simp [hx x List.mem_cons_self]
    rw [List.cons_append, splitAt_cons, if_neg hne, ih fun c hc => hx c (List.mem_cons_of_mem x hc)]
    rfl

theorem splitAt_flatMap_lower (marks : ∀ c, sep c = true → isMark c = true) (cs : List Char) :
    splitAt sep (cs.flatMap lower) = (splitAt sep cs).map fun p => p.flatMap lower := by
  induction cs with
  | nil => rfl
  | cons c cs ih =>
    obtain ⟨p, ps, hp⟩ := exists_splitAt_eq_cons sep cs
    rw [List.flatMap_cons, splitAt_cons]
    by_cases hc : sep c = true
    · rw [if_pos hc, lower_of_isMark (marks c hc), List.singleton_append, splitAt_cons,
        if_pos hc, ih]
      rfl
    · -- what is made out of a character that parts nothing parts nothing
      have hlow : ∀ d ∈ lower c, sep d = false := by
        intro d hd
        by_contra hs
        rw [Bool.not_eq_false] at hs
        have : isMark c = true := by rw [← isMark_of_mem_lower hd, marks d hs]
        rw [lower_of_isMark this, List.mem_singleton] at hd
        exact hc (hd ▸ hs)
      rw [hp, List.map_cons] at ih
      rw [if_neg hc, splitAt_append_of_forall hlow ih, hp]
      rfl

/-- **Lowering and parting may be done in either order**, when a text is parted by marks. -/
theorem piecesAt_flatMap_lower (marks : ∀ c, sep c = true → isMark c = true) (cs : List Char) :
    piecesAt sep (cs.flatMap lower) = (piecesAt sep cs).map fun p => p.flatMap lower := by
  rw [piecesAt, piecesAt, splitAt_flatMap_lower marks, List.filter_map]
  congr 1
  refine List.filter_congr fun p _ => ?_
  rw [Function.comp_apply, Bool.not_inj_iff, Bool.eq_iff_iff, List.isEmpty_iff, List.isEmpty_iff,
    flatMap_lower_eq_nil_iff]

end

/-! ### Texts that differ in letter case only -/

theorem sameLetters_iff {s t : String} : sameLetters s t = true ↔ lowered s = lowered t := by
  rw [sameLetters, beq_iff_eq]

/-- Comparison up to letter case does not see letter case. -/
theorem sameLetters_congr {v v' w w' : String} (hv : sameLetters v v') (hw : sameLetters w w') :
    sameLetters v w = sameLetters v' w' := by
  rw [sameLetters_iff] at hv hw
  rw [sameLetters, sameLetters, hv, hw]

theorem lowered_ofList (cs : List Char) : lowered (String.ofList cs) = cs.flatMap lower := by
  rw [lowered, String.toList_ofList]

/-- The words of a text, lowered, are the pieces of the text lowered. -/
theorem map_lowered_words (s : String) : (words s).map lowered = piecesAt isSpace (lowered s) := by
  have marks : ∀ c, isSpace c = true → isMark c = true := fun c hc => by simp [isMark, hc]
  rw [words, List.map_map, lowered, piecesAt_flatMap_lower marks]
  exact List.map_congr_left fun p _ => lowered_ofList p

theorem any_sameLetters_words (s name : String) :
    ((words s).any fun w => sameLetters w name) =
      (piecesAt isSpace (lowered s)).any (· == lowered name) := by
  rw [← map_lowered_words, List.any_map]
  rfl

end Text
end MarkupSearch
