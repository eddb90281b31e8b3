/-
# Reading back what is written

The markup of a tree, as a list of characters: what is written for each label, what is written for
all below it, and the end tag. A reader goes over the characters from left to right and takes one
label at a time: the first characters tell which kind of label it is, and a character or a mark that
cannot stand in it tells where it ends. Whether references are put back in a text depends on the
element around it alone, so the reader needs to look neither ahead nor back.

Where each label is clean, so that nothing in it looks like its own end, and no two texts stand side
by side, the reader gives back the tree that was written (`Tree.readAll_charsAll`).

Key definitions: `Label.written`, `Label.Clean`, `Tree.charsAll`, `Tree.CleanAll`, `Tree.readAll`.
Key theorems: `Label.read_written`, `Tree.readAll_charsAll`, `Tree.charsAll_injective`.
-/
import Mathlib.Data.List.TakeWhile
import MarkupSearch.Proofs.Escaping
import MarkupSearch.Proofs.Tree
import MarkupSearch.Render

namespace MarkupSearch

/-! ### What is written -/

/-- Whether a character can stand in the name of an element or of an attribute. -/
def isNameChar (c : Char) : Bool :=
  !(Text.isSpace c || c = '<' || c = '>' || c = '/' || c = '=' || c = '"')

/-- Holds no white space and none of `<`, `>`, `/`, `=` and `"`. -/
def isName (s : String) : Bool := s.toList.all isNameChar

namespace MarkupAttribute

/-- An attribute as it is written, with the space before it. -/
def written (t : MarkupAttribute) : List Char :=
  ' ' :: (t.name.toList ++ '=' :: '"' :: (t.value.toList.flatMap (Escape.char .quoted) ++ ['"']))

/-- An attribute of a node is written as that of the markup with its name and its value. -/
theorem toList_attributeText (t : Attribute) :
    (Render.attributeText t).toList = (⟨none, t.name, t.value⟩ : MarkupAttribute).written := by
  simp [Render.attributeText, written, name, Escape.toList_text]

/-- The name is in one piece, and is one; the value is free. -/
def Clean (t : MarkupAttribute) : Prop := t.space = none ∧ t.localName ≠ "" ∧ isName t.localName

instance : DecidablePred Clean := fun t =>
  inferInstanceAs (Decidable (t.space = none ∧ t.localName ≠ "" ∧ isName t.localName))

end MarkupAttribute

namespace Label

/-- What is written for a label before all below it. -/
def written (raw : Bool) : Label → List Char
  | document => []
  | element name attributes =>
    '<' :: (name.toList ++ (attributes.flatMap MarkupAttribute.written ++ ['>']))
  | text s => if raw then s.toList else s.toList.flatMap (Escape.char .content)
  | comment s => '<' :: '!' :: '-' :: '-' :: (s.toList ++ ['-', '-', '>'])
  | doctype name => ['<', '!', 'D', 'O', 'C', 'T', 'Y', 'P', 'E', ' '] ++ (name.toList ++ ['>'])
  | instruction target data => '<' :: '?' :: (target.toList ++ ' ' :: (data.toList ++ ['>']))

/-- Whether texts right below are written as they are; none where what lies below is not written. -/
def inside : Label → Option Bool
  | element name _ => if Render.isVoid name then none else some (Render.isRawText name)
  | _ => none

/-- What is written after all below a label. -/
def endTag : Label → List Char
  | element name _ => '<' :: '/' :: (name.toList ++ ['>'])
  | _ => []

/-- A label whose end shows in the markup, in a raw text element (`raw`) or elsewhere. -/
def Clean (raw : Bool) : Label → Prop
  | document => False
  | element name attributes =>
    name.toList.head?.any Char.isAlpha ∧ isName name ∧ ∀ t ∈ attributes, t.Clean
  | text s => s ≠ "" ∧ (raw → '<' ∉ s.toList)
  | comment s => ¬ ['-', '-', '>'] <:+: s.toList
  | doctype name => '>' ∉ name.toList
  | instruction target data => ' ' ∉ target.toList ∧ '>' ∉ target.toList ∧ '>' ∉ data.toList

instance (raw : Bool) : DecidablePred (Clean raw)
  | document => inferInstanceAs (Decidable False)
  | element name attributes => inferInstanceAs (Decidable
      (name.toList.head?.any Char.isAlpha ∧ isName name ∧ ∀ t ∈ attributes, t.Clean))
  | text s => inferInstanceAs (Decidable (s ≠ "" ∧ (raw → '<' ∉ s.toList)))
  | comment s => inferInstanceAs (Decidable (¬ ['-', '-', '>'] <:+: s.toList))
  | doctype name => inferInstanceAs (Decidable ('>' ∉ name.toList))
  | instruction target data => inferInstanceAs (Decidable
      (' ' ∉ target.toList ∧ '>' ∉ target.toList ∧ '>' ∉ data.toList))

end Label

namespace Tree

mutual
/-- The markup of a tree. -/
def chars (raw : Bool) : Tree → List Char
  | node label below =>
    label.written raw ++
      match label.inside with
      | some inside => charsAll inside below ++ label.endTag
      | none => []

/-- The markup of several trees, one after the other. -/
def charsAll (raw : Bool) : List Tree → List Char
  | [] => []
  | t :: ts => chars raw t ++ charsAll raw ts
end

/-- Not both are texts. -/
def Apart (t u : Tree) : Prop := ¬ (t.label.isText ∧ u.label.isText)

mutual
/-- A tree of clean labels; below one that is written alone there is nothing. -/
def Clean (raw : Bool) : Tree → Prop
  | node label below =>
    label.Clean raw ∧
      match label.inside with
      | some inside => CleanAll inside below
      | none => below = []

/-- Clean trees, no two texts side by side. -/
def CleanAll (raw : Bool) : List Tree → Prop
  | [] => True
  | t :: ts => Clean raw t ∧ CleanAll raw ts ∧ ∀ u ∈ ts.head?, Apart t u
end

end Tree

/-! ### The reader -/

/-- The attributes up to the end of a start tag, and what is left. -/
def readAttributes : List Char → List MarkupAttribute × List Char
  | ' ' :: cs =>
    let quoted := (cs.dropWhile isNameChar).drop 2
    let more := readAttributes ((quoted.dropWhile (· ≠ '"')).drop 1)
    (⟨none, String.ofList (cs.takeWhile isNameChar),
      String.ofList (Escape.unescape (quoted.takeWhile (· ≠ '"')))⟩ :: more.1, more.2)
  | cs => ([], cs)
termination_by cs => cs.length
decreasing_by
  have name := (List.dropWhile_suffix isNameChar (l := cs)).length_le
  have value := (List.dropWhile_suffix (fun c : Char => decide (c ≠ '"'))
    (l := (cs.dropWhile isNameChar).drop 2)).length_le
  simp only [List.length_drop, List.length_cons] at value ⊢
  omega

/-- What comes before the end of a comment, and what is left after it. -/
def readComment : List Char → List Char × List Char
  | '-' :: '-' :: '>' :: cs => ([], cs)
  | c :: cs => (c :: (readComment cs).1, (readComment cs).2)
  | [] => ([], [])

/-- The label that begins with an angle bracket, and what is left; none at an end tag. -/
def readTag : List Char → Option (Label × List Char)
  | '/' :: _ => none
  | '!' :: '-' :: '-' :: cs =>
    some (.comment (String.ofList (readComment cs).1), (readComment cs).2)
  | '!' :: cs =>
    let name := cs.drop 8
    some (.doctype (String.ofList (name.takeWhile (· ≠ '>'))), (name.dropWhile (· ≠ '>')).drop 1)
  | '?' :: cs =>
    let data := (cs.dropWhile (· ≠ ' ')).drop 1
    some (.instruction (String.ofList (cs.takeWhile (· ≠ ' ')))
      (String.ofList (data.takeWhile (· ≠ '>'))), (data.dropWhile (· ≠ '>')).drop 1)
  | cs =>
    let more := readAttributes (cs.dropWhile isNameChar)
    some (.element (String.ofList (cs.takeWhile isNameChar)) more.1, more.2.drop 1)

/-- The first label, and what is left; none at an end tag and at the end. -/
def readLabel (raw : Bool) : List Char → Option (Label × List Char)
  | [] => none
  | '<' :: cs => readTag cs
  | cs =>
    let s := cs.takeWhile (· ≠ '<')
    some (.text (String.ofList (if raw then s else Escape.unescape s)), cs.dropWhile (· ≠ '<'))

/-- The trees up to an end tag or the end, and what is left. -/
def Tree.readAll : Nat → Bool → List Char → List Tree × List Char
  | 0, _, cs => ([], cs)
  | fuel + 1, raw, cs =>
    match readLabel raw cs with
    | none => ([], cs)
    | some (label, cs) =>
      match label.inside with
      | none =>
        let after := readAll fuel raw cs
        (.node label [] :: after.1, after.2)
      | some inside =>
        let below := readAll fuel inside cs
        let after := readAll fuel raw (below.2.drop label.endTag.length)
        (.node label below.1 :: after.1, after.2)

/-! ### Where a label ends -/

theorem takeWhile_append_cons {p : Char → Bool} {s : List Char} {c : Char} (hs : ∀ x ∈ s, p x)
    (hc : p c = false) (rest : List Char) : (s ++ c :: rest).takeWhile p = s := by
  rw [List.takeWhile_append_of_pos hs, List.takeWhile_cons, hc]
  exact List.append_nil s

theorem dropWhile_append_cons {p : Char → Bool} {s : List Char} {c : Char} (hs : ∀ x ∈ s, p x)
    (hc : p c = false) (rest : List Char) : (s ++ c :: rest).dropWhile p = c :: rest := by
  rw [List.dropWhile_append_of_pos hs, List.dropWhile_cons, hc]
  rfl

/-- A character that a text does not hold stops a reader that goes up to it. -/
theorem all_ne_of_not_mem {s : List Char} {c : Char} (h : c ∉ s) :
    ∀ x ∈ s, decide (x ≠ c) = true := by
  intro x hx
  rw [decide_eq_true_eq]
  rintro rfl
  exact h hx

/-- The value of an attribute ends at the first quotation mark. -/
theorem takeWhile_value (s rest : List Char) :
    (s.flatMap (Escape.char .quoted) ++ '"' :: rest).takeWhile (· ≠ '"') =
      s.flatMap (Escape.char .quoted) :=
  takeWhile_append_cons (all_ne_of_not_mem (Escape.quote_not_mem s)) rfl rest

theorem dropWhile_value (s rest : List Char) :
    (s.flatMap (Escape.char .quoted) ++ '"' :: rest).dropWhile (· ≠ '"') = '"' :: rest :=
  dropWhile_append_cons (all_ne_of_not_mem (Escape.quote_not_mem s)) rfl rest

theorem readAttributes_written : ∀ (ts : List MarkupAttribute) (rest : List Char),
    (∀ t ∈ ts, t.Clean) →
    readAttributes (ts.flatMap MarkupAttribute.written ++ '>' :: rest) = (ts, '>' :: rest)
  | [], rest, _ => by
    rw [List.flatMap_nil, List.nil_append, readAttributes]
    rintro _ ⟨⟩
  | ⟨space, localName, value⟩ :: ts, rest, h => by
    obtain ⟨hspace, -, hname⟩ := h _ List.mem_cons_self
    have hname := List.all_eq_true.mp hname
    obtain rfl : space = none := hspace
    have ih := readAttributes_written ts rest fun t ht => h t (List.mem_cons_of_mem _ ht)
    simp only [List.flatMap_cons, MarkupAttribute.written, MarkupAttribute.name, List.cons_append,
      List.append_assoc, List.nil_append]
    rw [readAttributes]
    have hname' : isNameChar '=' = false := by decide
    simp only [takeWhile_append_cons hname hname', dropWhile_append_cons hname hname',
      List.drop_succ_cons, List.drop_zero, takeWhile_value, dropWhile_value,
      Escape.unescape_flatMap_char, ih, String.ofList_toList]

/-- The end mark of a comment that holds none is the first one there is, even where the comment ends
with the beginning of one. -/
theorem readComment_append : ∀ (s rest : List Char), ¬ ['-', '-', '>'] <:+: s →
    readComment (s ++ '-' :: '-' :: '>' :: rest) = (s, rest)
  | [], rest, _ => rfl
  | c :: s, rest, h => by
    have ih := readComment_append s rest fun hs =>
      h (hs.trans (List.infix_cons (List.infix_refl s)))
    rw [List.cons_append, readComment, ih]
    -- a mark that begins at `c` would have to end within `s`
    rintro cs rfl hcs
    match s, hcs with
    | [], hcs => simp at hcs
    | [d], hcs => simp at hcs
    | d :: e :: s, hcs =>
      simp only [List.cons_append, List.cons.injEq] at hcs
      obtain ⟨rfl, rfl, -⟩ := hcs
      exact h ⟨[], s, rfl⟩

/-! ### Reading back -/

namespace Label

theorem read_text {raw : Bool} {s rest : List Char} (hs : s ≠ []) (hlt : '<' ∉ s)
    (hrest : ∀ c ∈ rest.head?, c = '<') :
    readLabel raw (s ++ rest) =
      some (.text (String.ofList (if raw then s else Escape.unescape s)), rest) := by
  have hall := all_ne_of_not_mem hlt
  have stop : (s ++ rest).takeWhile (· ≠ '<') = s ∧ (s ++ rest).dropWhile (· ≠ '<') = rest := by
    cases rest with
    | nil =>
      rw [List.append_nil]
      exact ⟨List.takeWhile_eq_self_iff.mpr hall, List.dropWhile_eq_nil_iff.mpr hall⟩
    | cons c rest =>
      obtain rfl : c = '<' := hrest c rfl
      exact ⟨takeWhile_append_cons hall rfl rest, dropWhile_append_cons hall rfl rest⟩
  cases s with
  | nil => exact absurd rfl hs
  | cons c s =>
    have hc : c ≠ '<' := by
      rintro rfl
      exact hlt List.mem_cons_self
    rw [List.cons_append] at stop ⊢
    rw [readLabel, stop.1, stop.2]
    · rintro ⟨⟩
    · rintro _ ⟨⟩
      exact hc rfl

theorem read_element {raw : Bool} {name : String} {attributes : List MarkupAttribute}
    (h : (element name attributes).Clean raw) (rest : List Char) :
    readLabel raw ((element name attributes).written raw ++ rest) =
      some (element name attributes, rest) := by
  obtain ⟨hletter, hname, hattributes⟩ := h
  have hname := List.all_eq_true.mp hname
  obtain ⟨c, hc, halpha⟩ := (Option.any_eq_true _ _).mp hletter
  obtain ⟨cs, hcs⟩ : ∃ cs, name.toList = c :: cs := List.head?_eq_some_iff.mp hc
  have hread := readAttributes_written attributes rest hattributes
  -- the name ends where the first attribute or the end of the tag begins
  obtain ⟨d, more, hmore, hd⟩ : ∃ d more,
      attributes.flatMap MarkupAttribute.written ++ '>' :: rest = d :: more ∧
        isNameChar d = false := by
    cases attributes with
    | nil => exact ⟨'>', rest, rfl, by decide⟩
    | cons t ts => exact ⟨' ', _, rfl, by decide⟩
  simp only [written, List.cons_append, List.append_assoc, List.nil_append]
  rw [hmore] at hread ⊢
  have htake := takeWhile_append_cons hname hd more
  have hdrop := dropWhile_append_cons hname hd more
  rw [hcs] at htake hdrop ⊢
  rw [readLabel, List.cons_append] at *
  rw [readTag, htake, hdrop, hread, ← hcs, String.ofList_toList]
  · rfl
  -- a letter begins no other kind of label
  all_goals
    intro _ he
    obtain ⟨rfl, -⟩ := List.cons.inj he
    exact absurd halpha (by decide)

/-- **A clean label is read back** whatever follows it, a text whatever begins with a bracket. -/
theorem read_written {raw : Bool} {label : Label} {rest : List Char} (h : label.Clean raw)
    (hrest : label.isText → ∀ c ∈ rest.head?, c = '<') :
    readLabel raw (label.written raw ++ rest) = some (label, rest) := by
  cases label with
  | document => exact h.elim
  | element name attributes => exact read_element h rest
  | text s =>
    obtain ⟨hs, hlt⟩ := h
    have hne : s.toList ≠ [] := fun he => hs (String.toList_eq_nil_iff.mp he)
    cases raw with
    | true =>
      rw [written, if_pos rfl, read_text hne (hlt rfl) (hrest rfl), if_pos rfl,
        String.ofList_toList]
    | false =>
      have hne' : s.toList.flatMap (Escape.char .content) ≠ [] := by
        intro he
        have := Escape.unescape_flatMap_char .content s.toList
        rw [he] at this
        exact hne this.symm
      rw [written, if_neg Bool.false_ne_true,
        read_text hne' (Escape.lt_not_mem s.toList) (hrest rfl), if_neg Bool.false_ne_true,
        Escape.unescape_flatMap_char, String.ofList_toList]
  | comment s =>
    simp only [written, List.cons_append, List.append_assoc, List.nil_append]
    rw [readLabel, readTag, readComment_append s.toList rest h, String.ofList_toList]
  | doctype name =>
    have hname := all_ne_of_not_mem h
    simp only [written, List.cons_append, List.append_assoc, List.nil_append]
    rw [readLabel, readTag]
    · simp only [List.drop_succ_cons, List.drop_zero, takeWhile_append_cons (c := '>') hname rfl,
        dropWhile_append_cons (c := '>') hname rfl, String.ofList_toList]
    · rintro _ ⟨⟩
  | instruction target data =>
    obtain ⟨htarget, -, hdata⟩ := h
    have htarget := all_ne_of_not_mem htarget
    have hdata := all_ne_of_not_mem hdata
    simp only [written, List.cons_append, List.append_assoc, List.nil_append]
    rw [readLabel, readTag]
    simp only [takeWhile_append_cons (c := ' ') htarget rfl,
      dropWhile_append_cons (c := ' ') htarget rfl, List.drop_succ_cons, List.drop_zero,
      takeWhile_append_cons (c := '>') hdata rfl, dropWhile_append_cons (c := '>') hdata rfl,
      String.ofList_toList]

/-- All but texts begin with an angle bracket. -/
theorem head?_written {raw : Bool} {label : Label} (h : label.Clean raw) (hl : ¬ label.isText)
    (rest : List Char) : (label.written raw ++ rest).head? = some '<' := by
  cases label with
  | document => exact h.elim
  | text s => exact absurd rfl hl
  | _ => rfl

theorem not_isText_of_inside {label : Label} {inside : Bool} (h : label.inside = some inside) :
    ¬ label.isText := by
  cases label <;> simp [Label.inside, isText] at h ⊢

end Label

namespace Tree

/-- What can follow the last of several trees: nothing, or an end tag. -/
def Ends (cs : List Char) : Prop := cs = [] ∨ ∃ more, cs = '<' :: '/' :: more

theorem Ends.readLabel {raw : Bool} {cs : List Char} (h : Ends cs) : readLabel raw cs = none := by
  rcases h with rfl | ⟨more, rfl⟩ <;> rfl

theorem Ends.head? {cs : List Char} (h : Ends cs) : ∀ c ∈ cs.head?, c = '<' := by
  rcases h with rfl | ⟨more, rfl⟩
  · rintro _ ⟨⟩
  · rintro _ ⟨⟩
    rfl

theorem ends_endTag {label : Label} {inside : Bool} (h : label.inside = some inside)
    (rest : List Char) : Ends (label.endTag ++ rest) := by
  cases label with
  | element name attributes => exact .inr ⟨_, rfl⟩
  | _ => simp [Label.inside] at h

/-- What follows a text begins with an angle bracket, as no other text does. -/
theorem head?_charsAll {raw : Bool} {ts : List Tree} {rest : List Char} (h : CleanAll raw ts)
    (hts : ∀ u ∈ ts.head?, ¬ u.label.isText) (hrest : Ends rest) :
    ∀ c ∈ (charsAll raw ts ++ rest).head?, c = '<' := by
  cases ts with
  | nil => exact hrest.head?
  | cons t ts =>
    cases t with
    | node label below =>
      obtain ⟨⟨hlabel, -⟩, -⟩ := h
      intro c hc
      rw [charsAll, chars, List.append_assoc, List.append_assoc,
        Label.head?_written hlabel (hts _ rfl)] at hc
      exact (Option.some.inj hc).symm

/-- **Trees are read back** up to the end or the end tag that follows them. -/
theorem readAll_charsAll : ∀ (fuel : Nat) (raw : Bool) (ts : List Tree) (rest : List Char),
    CleanAll raw ts → Ends rest → sizeAll ts ≤ fuel →
    readAll fuel raw (charsAll raw ts ++ rest) = (ts, rest)
  | 0, _, [], _, _, _, _ => rfl
  | 0, _, t :: ts, _, _, _, hsize => by
    have := t.size_pos
    rw [sizeAll] at hsize
    omega
  | fuel + 1, raw, [], rest, _, hrest, _ => by
    rw [charsAll, List.nil_append, readAll, hrest.readLabel]
  | fuel + 1, raw, node label below :: ts, rest, hclean, hrest, hsize => by
    obtain ⟨⟨hlabel, hbelow⟩, hts, hapart⟩ := hclean
    rw [sizeAll, size] at hsize
    have after := readAll_charsAll fuel raw ts rest hts hrest (by omega)
    cases hin : label.inside with
    | none =>
      rw [hin] at hbelow
      obtain rfl : below = [] := hbelow
      have hnext : label.isText → ∀ c ∈ (charsAll raw ts ++ rest).head?, c = '<' := fun htext =>
        head?_charsAll hts (fun u hu hu' => hapart u hu ⟨htext, hu'⟩) hrest
      simp only [charsAll, chars, hin, List.append_nil, List.append_assoc]
      rw [readAll, Label.read_written hlabel hnext]
      simp only [hin, after]
    | some inside =>
      rw [hin] at hbelow
      have within := readAll_charsAll fuel inside below (label.endTag ++ (charsAll raw ts ++ rest))
        hbelow (ends_endTag hin _) (by omega)
      simp only [charsAll, chars, hin, List.append_assoc]
      rw [readAll, Label.read_written hlabel fun htext =>
        absurd htext (Label.not_isText_of_inside hin)]
      simp only [hin, within, List.drop_left, after]

/-- **No two clean lists of trees have the same markup.** -/
theorem charsAll_injective {raw : Bool} {ts us : List Tree} (hts : CleanAll raw ts)
    (hus : CleanAll raw us) (h : charsAll raw ts = charsAll raw us) : ts = us := by
  have readTs := readAll_charsAll (sizeAll ts + sizeAll us) raw ts [] hts (.inl rfl) (by omega)
  have readUs := readAll_charsAll (sizeAll ts + sizeAll us) raw us [] hus (.inl rfl) (by omega)
  rw [h, readUs] at readTs
  exact (congrArg Prod.fst readTs).symm

end Tree
end MarkupSearch
