/-
# White space, and the words between it

Two classes of white space are used. The ASCII class (tab, line feed, form feed, carriage
return, space) parts the words of a `class` attribute and the tokens of markup; the Unicode class
(the property `White_Space`) is what is trimmed off a text and what makes a text blank. Vertical
tab and the no-break space are blank in the second sense only.

Key definitions: `Text.isSpace`, `Text.isBlank`, `Text.words`, `Text.trim`, `Text.TrimsTo`.
Key theorem: `Text.trimsTo_iff`.
-/

namespace MarkupSearch
namespace Text

/-- ASCII white space: tab, line feed, form feed, carriage return and space. -/
def isSpace (c : Char) : Bool :=
  c = '\t' || c = '\n' || c = '\x0c' || c = '\r' || c = ' '

/-- The characters with the Unicode property `White_Space`. -/
def isBlank (c : Char) : Bool :=
  let n := c.toNat
  (0x09 ≤ n && n ≤ 0x0D) || n = 0x20 || n = 0x85 || n = 0xA0 || n = 0x1680 ||
    (0x2000 ≤ n && n ≤ 0x200A) || n = 0x2028 || n = 0x2029 || n = 0x202F || n = 0x205F || n = 0x3000

/-- Puts a character in front of the first piece. -/
def onFirst (c : Char) : List (List Char) → List (List Char)
  | [] => [[c]]
  | p :: ps => (c :: p) :: ps

/-- The pieces between separators, empty ones included; there is always at least one. -/
def splitAt (sep : Char → Bool) (cs : List Char) : List (List Char) :=
  cs.foldr (fun c ps => if sep c then [] :: ps else onFirst c ps) [[]]

@[simp] theorem splitAt_nil (sep : Char → Bool) : splitAt sep [] = [[]] := rfl

theorem splitAt_cons (sep : Char → Bool) (c : Char) (cs : List Char) :
    splitAt sep (c :: cs) =
      if sep c then [] :: splitAt sep cs else onFirst c (splitAt sep cs) := rfl

/-- The non-empty pieces between separators. -/
def piecesAt (sep : Char → Bool) (cs : List Char) : List (List Char) :=
  (splitAt sep cs).filter fun p => !p.isEmpty

/-- The words of a text: its longest runs without ASCII white space. -/
def words (s : String) : List String :=
  (piecesAt isSpace s.toList).map String.ofList

/-- A text is blank when it holds no character that is not; the empty text is. -/
def allBlank (s : String) : Bool :=
  s.toList.all isBlank

/-- A text without the blank characters at its two ends. -/
def trim (s : String) : String :=
  String.ofList ((s.toList.dropWhile isBlank).reverse.dropWhile isBlank).reverse

/-- One text is another without the blank characters at its two ends: what stands before it and
after it there is blank, and it neither begins nor ends with a blank character itself. -/
def TrimsTo (s t : String) : Prop :=
  ∃ before after : String, s = before ++ t ++ after ∧
    allBlank before = true ∧ allBlank after = true ∧
    (∀ c ∈ t.toList.head?, isBlank c = false) ∧ ∀ c ∈ t.toList.getLast?, isBlank c = false

/-- Values are dropped up to the first that is to stay. -/
theorem dropWhile_append_of_head? {α : Type} {p : α → Bool} {xs ys : List α}
    (hxs : ∀ x ∈ xs, p x = true) (hys : ∀ y ∈ ys.head?, p y = false) :
    (xs ++ ys).dropWhile p = ys := by
  rw [List.dropWhile_append_of_pos hxs]
  cases ys with
  | nil => rfl
  | cons y ys => exact List.dropWhile_cons_of_neg (by simp [hys y rfl])

/-- What is left of a list begins with a value that is to stay. -/
theorem of_mem_head?_dropWhile {α : Type} {p : α → Bool} {xs : List α} {x : α}
    (h : x ∈ (xs.dropWhile p).head?) : p x = false := by
  have first := List.head?_dropWhile_not p xs
  rw [Option.mem_def.mp h] at first
  exact first

theorem trimsTo_trim (s : String) : TrimsTo s (trim s) := by
  let rest := s.toList.dropWhile isBlank
  have parts : (rest.reverse.dropWhile isBlank).reverse ++ (rest.reverse.takeWhile isBlank).reverse =
      rest := by
    rw [← List.reverse_append, List.takeWhile_append_dropWhile, List.reverse_reverse]
  have trimmed : (trim s).toList = (rest.reverse.dropWhile isBlank).reverse := String.toList_ofList
  refine ⟨String.ofList (s.toList.takeWhile isBlank),
    String.ofList (rest.reverse.takeWhile isBlank).reverse, ?_, ?_, ?_, ?_, ?_⟩
  · rw [← String.toList_inj, String.toList_append, String.toList_append, String.toList_ofList,
      String.toList_ofList, trimmed, List.append_assoc, parts, List.takeWhile_append_dropWhile]
  · rw [allBlank, String.toList_ofList]
    exact List.all_takeWhile
  · rw [allBlank, String.toList_ofList, List.all_reverse]
    exact List.all_takeWhile
  · intro c hc
    -- the text begins as what is left of the whole at its front
    have front : c ∈ rest.head? := by
      rw [← parts, List.head?_append, ← trimmed, Option.mem_def.mp hc]
      rfl
    exact of_mem_head?_dropWhile front
  · intro c hc
    rw [trimmed, List.getLast?_reverse] at hc
    exact of_mem_head?_dropWhile hc

/-- There is one text only that is another trimmed. -/
theorem trimsTo_iff {s t : String} : TrimsTo s t ↔ t = trim s := by
  refine ⟨fun ⟨before, after, hs, hbefore, hafter, hfirst, hlast⟩ => ?_,
    fun h => h ▸ trimsTo_trim s⟩
  have hbefore := List.all_eq_true.mp hbefore
  have hafter := List.all_eq_true.mp hafter
  have parts : s.toList = before.toList ++ (t.toList ++ after.toList) := by
    rw [hs, String.toList_append, String.toList_append, List.append_assoc]
  rw [trim, parts]
  cases ht : t.toList with
  | nil =>
    have blank : ∀ c ∈ before.toList ++ after.toList, isBlank c = true :=
      List.forall_mem_append.mpr ⟨hbefore, hafter⟩
    have nothing : (before.toList ++ after.toList).dropWhile isBlank = [] := by
      rw [← List.append_nil (before.toList ++ after.toList)]
      exact dropWhile_append_of_head? blank nofun
    rw [List.nil_append, nothing]
    exact String.toList_eq_nil_iff.mp ht
  | cons c cs =>
    rw [ht] at hfirst hlast
    have front : (before.toList ++ ((c :: cs) ++ after.toList)).dropWhile isBlank =
        (c :: cs) ++ after.toList := dropWhile_append_of_head? hbefore hfirst
    have back : ((c :: cs) ++ after.toList).reverse.dropWhile isBlank = (c :: cs).reverse := by
      rw [List.reverse_append]
      exact dropWhile_append_of_head? (fun x hx => hafter x (List.mem_reverse.mp hx))
        (by rwa [List.head?_reverse])
    rw [front, back, List.reverse_reverse, ← ht, String.ofList_toList]

end Text
end MarkupSearch
