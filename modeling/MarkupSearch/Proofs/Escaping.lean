/-
# Escaping can be undone

What escaping writes for a character is the character itself, or a reference that begins with an
ampersand; no character that stands for itself is an ampersand (`char_eq`). So the references can be
put back from left to right (`unescape_flatMap_char`), every ampersand that is written begins one of
them (`exists_reference_of_flatMap_char`), and the characters that end a text or a value never stand
in it (`not_mem_of_mem_delimiters`).

Key definitions: `Escape.unescape`, `Escape.references`, `Escape.delimiters`.
Key theorems: `Escape.unescape_flatMap_char`, `Escape.exists_reference_of_flatMap_char`,
`Escape.not_mem_of_mem_delimiters`, `Escape.text_injective`.
-/
import MarkupSearch.Render.Escape

namespace MarkupSearch

/-- A value that is not in the front of a list is found in the back of it, where it is found. -/
theorem exists_eq_append_of_not_mem {α : Type} {x : α} {us vs before after : List α} (hx : x ∉ us)
    (h : us ++ vs = before ++ x :: after) : ∃ mid, vs = mid ++ x :: after := by
  rcases List.append_eq_append_iff.mp h with ⟨mid, -, hvs⟩ | ⟨mid, rfl, hafter⟩
  · exact ⟨mid, hvs⟩
  · cases mid with
    | nil => exact ⟨[], hafter.symm⟩
    | cons y mid =>
      obtain ⟨rfl, -⟩ := List.cons.inj hafter
      exact absurd (List.mem_append_right before List.mem_cons_self) hx

namespace Escape

/-- Puts the characters for references back, from left to right. -/
def unescape : List Char → List Char
  | '&' :: 'a' :: 'm' :: 'p' :: ';' :: cs => '&' :: unescape cs
  | '&' :: 'n' :: 'b' :: 's' :: 'p' :: ';' :: cs => '\u00a0' :: unescape cs
  | '&' :: 'q' :: 'u' :: 'o' :: 't' :: ';' :: cs => '"' :: unescape cs
  | '&' :: 'l' :: 't' :: ';' :: cs => '<' :: unescape cs
  | '&' :: 'g' :: 't' :: ';' :: cs => '>' :: unescape cs
  | c :: cs => c :: unescape cs
  | [] => []

theorem unescape_cons_of_ne {c : Char} (h : c ≠ '&') (cs : List Char) :
    unescape (c :: cs) = c :: unescape cs := by
  rw [unescape] <;> rintro _ rfl <;> exact absurd rfl h

/-! ### References and delimiters -/

/-- The references that are written, with the characters that they stand for. -/
def references : List (List Char × Char) :=
  [("&amp;".toList, '&'), ("&nbsp;".toList, '\u00a0'), ("&quot;".toList, '"'), ("&lt;".toList, '<'),
    ("&gt;".toList, '>')]

/-- The characters besides the ampersand that are written as references at a place. -/
def delimiters : Place → List Char
  | .content => ['<', '>', '\u00a0']
  | .quoted => ['"', '\u00a0']

theorem unescape_reference_append : ∀ r ∈ references, ∀ cs : List Char,
    unescape (r.1 ++ cs) = r.2 :: unescape cs := by
  simp only [references, List.forall_mem_cons]
  exact ⟨fun _ => rfl, fun _ => rfl, fun _ => rfl, fun _ => rfl, fun _ => rfl, by simp⟩

/-- A reference begins with an ampersand and holds no other one. -/
theorem exists_reference_eq : ∀ r ∈ references, ∃ tail, r.1 = '&' :: tail ∧ '&' ∉ tail := by
  simp only [references, List.forall_mem_cons]
  exact ⟨⟨_, rfl, by decide⟩, ⟨_, rfl, by decide⟩, ⟨_, rfl, by decide⟩, ⟨_, rfl, by decide⟩,
    ⟨_, rfl, by decide⟩, by simp⟩

/-- **One character** is written as the reference to it, or as itself if it is no ampersand. -/
theorem char_eq (place : Place) (c : Char) :
    (char place c, c) ∈ references ∨ c ≠ '&' ∧ char place c = [c] := by
  unfold char
  split
  case h_6 h _ _ _ _ => exact .inr ⟨fun hc => h hc, rfl⟩
  all_goals exact .inl (by decide)

/-- What is written for one character holds an ampersand at its front only, and is a reference
then. -/
theorem exists_char_eq (place : Place) (c : Char) :
    ∃ d tail, char place c = d :: tail ∧ '&' ∉ tail ∧
      (d = '&' → ∃ r ∈ references, r.1 = d :: tail) := by
  rcases char_eq place c with hr | ⟨hc, hplain⟩
  · obtain ⟨tail, htail, hnot⟩ := exists_reference_eq _ hr
    exact ⟨'&', tail, htail, hnot, fun _ => ⟨_, hr, htail⟩⟩
  · exact ⟨c, [], hplain, List.not_mem_nil, fun h => absurd h hc⟩

theorem char_delimiter_ne : ∀ place, ∀ d ∈ delimiters place, char place d ≠ [d] := by
  rintro (_ | _) <;> simp [delimiters, char]

theorem not_mem_reference : ∀ place, ∀ d ∈ delimiters place, ∀ r ∈ references, d ∉ r.1 := by
  rintro (_ | _) <;> simp [delimiters, references]

/-! ### What is written for a text -/

theorem unescape_char_append (place : Place) (c : Char) (cs : List Char) :
    unescape (char place c ++ cs) = c :: unescape cs := by
  rcases char_eq place c with hr | ⟨hc, hplain⟩
  · exact unescape_reference_append _ hr cs
  · rw [hplain, List.singleton_append, unescape_cons_of_ne hc]

/-- **Escaping is undone.** -/
theorem unescape_flatMap_char (place : Place) (s : List Char) :
    unescape (s.flatMap (char place)) = s := by
  induction s with
  | nil => rfl
  | cons c s ih => rw [List.flatMap_cons, unescape_char_append, ih]

/-- **An ampersand that is written begins a reference.** None is made where what is written for two
characters meets, since what is written for the second begins with an ampersand of its own or holds
none. -/
theorem exists_reference_of_flatMap_char {place : Place} {s before after : List Char}
    (h : s.flatMap (char place) = before ++ '&' :: after) :
    ∃ r ∈ references, r.1 <+: '&' :: after := by
  induction s generalizing before with
  | nil => simp at h
  | cons c s ih =>
    obtain ⟨d, tail, hd, htail, hreference⟩ := exists_char_eq place c
    rw [List.flatMap_cons, hd, List.cons_append] at h
    cases before with
    | nil =>
      obtain ⟨rfl, rfl⟩ := List.cons.inj h
      obtain ⟨r, hr, hbegins⟩ := hreference rfl
      exact ⟨r, hr, _, by rw [hbegins, List.cons_append]⟩
    | cons b before =>
      obtain ⟨mid, hmid⟩ := exists_eq_append_of_not_mem htail (List.cons.inj h).2
      exact ih hmid

/-- **Delimiters are not written** as themselves. -/
theorem not_mem_of_mem_delimiters {place : Place} {d : Char} (hd : d ∈ delimiters place)
    (s : List Char) : d ∉ s.flatMap (char place) := by
  rw [List.mem_flatMap]
  rintro ⟨c, -, hc⟩
  rcases char_eq place c with hr | ⟨-, hplain⟩
  · exact not_mem_reference place d hd _ hr hc
  · rw [hplain, List.mem_singleton] at hc
    subst hc
    exact char_delimiter_ne place d hd hplain

/-- An opening angle bracket in a text is written as a reference. -/
theorem lt_not_mem (s : List Char) : '<' ∉ s.flatMap (char .content) :=
  not_mem_of_mem_delimiters (by decide) s

/-- A quotation mark in an attribute value is written as a reference. -/
theorem quote_not_mem (s : List Char) : '"' ∉ s.flatMap (char .quoted) :=
  not_mem_of_mem_delimiters (by decide) s

theorem toList_text (place : Place) (s : String) :
    (text place s).toList = s.toList.flatMap (char place) :=
  String.toList_ofList

/-- No two texts are written alike at one place. -/
theorem text_injective (place : Place) : Function.Injective (text place) := by
  intro s t h
  have written : s.toList.flatMap (char place) = t.toList.flatMap (char place) := by
    rw [← toList_text, ← toList_text, h]
  rw [← String.toList_inj, ← unescape_flatMap_char place s.toList, written,
    unescape_flatMap_char]

theorem text_append (place : Place) (s t : String) :
    text place (s ++ t) = text place s ++ text place t := by
  rw [text, String.toList_append, List.flatMap_append, String.ofList_append]
  rfl

end Escape
end MarkupSearch
