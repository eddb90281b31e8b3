/-
# Written JSON is read back

What a character becomes in a written string is read as one piece, a character or a unit that is no
half of a pair, so the pieces of a written string join to its text. A value is read back with
whatever follows it, as long as that does not go on as a number would: a number is the only value
that does not say itself where it ends. The bound on the nesting of calls is twice the length of
what is written, since each call on a value, an item or a member comes with a character of its own.

Key definitions: `Json.isProper`, `Json.Ends`.
Key theorems: `Json.string?_flatMap_quoteChar`, `Json.value_number`, `Json.value_chars`,
`Json.read?_write`.
-/
import MarkupSearch.Json.Reader

namespace MarkupSearch
namespace Json

/-! ### Strings -/

/-- A piece that stands for a character: the character itself, or its unit if it is a control
character. -/
inductive Piece.Names : Piece → Char → Prop where
  | char (c : Char) : Names (.char c) c
  | unit (c : Char) (h : c.toNat < 0x20) : Names (.unit c.toNat) c

theorem hexValue?_digitChar : ∀ d < 16, hexValue? (Nat.digitChar d) = some d := by decide

theorem unit?_digitChars {n : Nat} (h : n < 0x20) :
    unit? '0' '0' (Nat.digitChar (n / 16)) (Nat.digitChar (n % 16)) = some n := by
  have zero : hexValue? '0' = some 0 := rfl
  have high := hexValue?_digitChar (n / 16) (by omega)
  have low := hexValue?_digitChar (n % 16) (by omega)
  have parts : ((0 * 16 + 0) * 16 + n / 16) * 16 + n % 16 = n := by omega
  unfold unit?
  rw [zero, high, low]
  exact congrArg some parts

theorem pieces_unit (a b c d : Char) (rest : List Char) {n : Nat} (h : unit? a b c d = some n) :
    pieces ('\\' :: 'u' :: a :: b :: c :: d :: rest) =
      (pieces rest).map fun q => (.unit n :: q.1, q.2) := by
  rw [pieces, h]
  cases pieces rest with
  | none => rfl
  | some q => rfl

theorem pieces_escaped {e c : Char} (hu : e ≠ 'u') (h : escaped? e = some c) (rest : List Char) :
    pieces ('\\' :: e :: rest) = (pieces rest).map fun q => (.char c :: q.1, q.2) := by
  rw [pieces, h]
  · cases pieces rest with
    | none => rfl
    | some q => rfl
  · exact fun _ _ _ _ _ he => absurd he hu

theorem pieces_plain {c : Char} (hquote : c ≠ '"') (hback : c ≠ '\\') (hlow : ¬ c.toNat < 0x20)
    (rest : List Char) : pieces (c :: rest) = (pieces rest).map fun q => (.char c :: q.1, q.2) := by
  have plain : (c = '\\' || c.toNat < 0x20 : Bool) = false := by simp [hback, hlow]
  rw [pieces, plain, if_neg Bool.false_ne_true]
  · cases pieces rest with
    | none => rfl
    | some q => rfl
  · exact fun h => absurd h hquote
  · exact fun _ _ _ _ _ h => absurd h hback
  · exact fun _ _ h => absurd h hback

/-- **A written character is read as one piece that stands for it**, whatever follows. -/
theorem pieces_quoteChar (c : Char) : ∃ p : Piece, p.Names c ∧ ∀ rest,
    pieces (quoteChar c ++ rest) = (pieces rest).map fun q => (p :: q.1, q.2) := by
  unfold quoteChar
  split
  any_goals exact ⟨_, .char _, pieces_escaped (by decide) rfl⟩
  next hquote hback _ _ _ _ _ =>
    by_cases hlow : c.toNat < 0x20
    · rw [if_pos hlow]
      exact ⟨_, .unit c hlow, fun rest => pieces_unit _ _ _ _ rest (unit?_digitChars hlow)⟩
    · rw [if_neg hlow]
      exact ⟨_, .char c, pieces_plain hquote hback hlow⟩

/-- A unit that is no half of a pair is a character by itself. -/
theorem joinUnits_unit {n : Nat} (high : isHigh n = false) (low : isLow n = false)
    (ps : List Piece) :
    joinUnits (.unit n :: ps) = (joinUnits ps).map (Char.ofNat n :: ·) := by
  cases ps with
  | nil => simp [joinUnits, high, low]
  | cons q qs =>
    cases q with
    | char d => simp [joinUnits, high, low]
    | unit l => simp [joinUnits, high, low]

theorem joinUnits_names {p : Piece} {c : Char} (h : p.Names c) (ps : List Piece) :
    joinUnits (p :: ps) = (joinUnits ps).map (c :: ·) := by
  cases h with
  | char => rw [joinUnits]
  | unit _ hlow =>
    have high : isHigh c.toNat = false := by
      unfold isHigh
      rw [decide_eq_false (by omega), Bool.false_and]
    have low : isLow c.toNat = false := by
      unfold isLow
      rw [decide_eq_false (by omega), Bool.false_and]
    rw [joinUnits_unit high low, Char.ofNat_toNat]

/-- **A written string is read back**, up to its closing quote. -/
theorem string?_flatMap_quoteChar (cs rest : List Char) :
    string? (cs.flatMap quoteChar ++ '"' :: rest) = some (some (String.ofList cs), rest) := by
  have read : ∃ ps, pieces (cs.flatMap quoteChar ++ '"' :: rest) = some (ps, rest) ∧
      joinUnits ps = some cs := by
    induction cs with
    | nil => exact ⟨[], rfl, rfl⟩
    | cons c cs ih =>
      obtain ⟨ps, hps, hjoin⟩ := ih
      obtain ⟨p, hp, hread⟩ := pieces_quoteChar c
      refine ⟨p :: ps, ?_, ?_⟩
      · rw [List.flatMap_cons, List.append_assoc, hread, hps, Option.map_some]
      · rw [joinUnits_names hp, hjoin, Option.map_some]
  obtain ⟨ps, hps, hjoin⟩ := read
  rw [string?, hps, Option.map_some, hjoin, Option.map_some]

/-- So is one without a text. -/
theorem string?_quote (text : Option String) (rest : List Char) :
    ∃ cs, quote text ++ rest = '"' :: cs ∧ string? cs = some (text, rest) := by
  cases text with
  | none => exact ⟨_, rfl, rfl⟩
  | some s =>
    refine ⟨s.toList.flatMap quoteChar ++ '"' :: rest, ?_, ?_⟩
    · rw [quote, List.cons_append, List.append_assoc, List.singleton_append]
    · rw [string?_flatMap_quoteChar, String.ofList_toList]

/-! ### Numbers -/

theorem all_isNumeric_of_isDigit {cs : List Char} (h : cs.all Char.isDigit = true) :
    cs.all isNumeric = true := by
  rw [List.all_eq_true] at h ⊢
  intro c hc
  simp [isNumeric, h c hc]

theorem all_isNumeric_of_digits? {cs r : List Char} (h : digits? cs = some r)
    (hr : r.all isNumeric = true) : cs.all isNumeric = true := by
  cases cs with
  | nil => simp [digits?] at h
  | cons c cs =>
    rw [digits?, Option.ite_none_right_eq_some, Option.some.injEq] at h
    obtain ⟨hc, rfl⟩ := h
    have run : (cs.takeWhile Char.isDigit).all isNumeric = true :=
      all_isNumeric_of_isDigit List.all_takeWhile
    have all : cs.all isNumeric = true := by
      rw [← List.takeWhile_append_dropWhile (p := Char.isDigit) (l := cs), List.all_append, run, hr]
      rfl
    rw [List.all_cons, all]
    simp [isNumeric, hc]

theorem all_isNumeric_of_whole? {cs r : List Char} (h : whole? cs = some r)
    (hr : r.all isNumeric = true) : cs.all isNumeric = true := by
  unfold whole? at h
  split at h
  · obtain rfl := Option.some.inj h
    rw [List.all_cons, hr]
    rfl
  · exact all_isNumeric_of_digits? h hr

theorem all_isNumeric_of_fraction? {cs r : List Char} (h : fraction? cs = some r)
    (hr : r.all isNumeric = true) : cs.all isNumeric = true := by
  unfold fraction? at h
  split at h
  · rw [List.all_cons, all_isNumeric_of_digits? h hr]
    rfl
  · obtain rfl := Option.some.inj h
    exact hr

theorem all_isNumeric_of_exponent? {cs r : List Char} (h : exponent? cs = some r)
    (hr : r.all isNumeric = true) : cs.all isNumeric = true := by
  unfold exponent? at h
  split at h
  · next e r' =>
    split at h
    · next he =>
      have letter : isNumeric e = true := by
        rcases Bool.or_eq_true_iff.mp he with he | he <;> simp [isNumeric, of_decide_eq_true he]
      rw [List.all_cons, letter, Bool.true_and]
      split at h
      · next sign r' =>
        split at h
        · next hs =>
          have hsign : isNumeric sign = true := by
            rcases Bool.or_eq_true_iff.mp hs with hs | hs <;> simp [isNumeric, of_decide_eq_true hs]
          rw [List.all_cons, hsign, all_isNumeric_of_digits? h hr]
          rfl
        · exact all_isNumeric_of_digits? h hr
      · rfl
    · obtain rfl := Option.some.inj h
      exact hr
  · rfl

theorem all_isNumeric_of_unsigned {cs : List Char}
    (h : ((whole? cs).bind fun r => (fraction? r).bind exponent?) = some []) :
    cs.all isNumeric = true := by
  obtain ⟨r, hr, h⟩ := Option.bind_eq_some_iff.mp h
  obtain ⟨r', hr', h⟩ := Option.bind_eq_some_iff.mp h
  have exponent : r'.all isNumeric = true := all_isNumeric_of_exponent? h rfl
  have fraction : r.all isNumeric = true := all_isNumeric_of_fraction? hr' exponent
  exact all_isNumeric_of_whole? hr fraction

/-- Numbers are written with numeric characters only. -/
theorem all_isNumeric_of_isNumber {cs : List Char} (h : isNumber cs = true) :
    cs.all isNumeric = true := by
  unfold isNumber at h
  split at h <;> dsimp only at h <;> split at h
  · next us hread =>
    rw [List.all_cons, all_isNumeric_of_unsigned hread]
    rfl
  · exact absurd h Bool.false_ne_true
  · next hread => exact all_isNumeric_of_unsigned hread
  · exact absurd h Bool.false_ne_true

theorem isNumber_ne_nil {cs : List Char} (h : isNumber cs = true) : cs ≠ [] := by
  rintro rfl
  exact absurd h (by decide)

/-! ### Values -/

/-- What follows a value does not go on as a number. -/
def Ends (rest : List Char) : Prop := ∀ c ∈ rest.head?, isNumeric c = false

theorem ends_nil : Ends [] := fun _ h => by simp at h

theorem ends_cons {c : Char} (h : isNumeric c = false) (rest : List Char) : Ends (c :: rest) := by
  intro d hd
  obtain rfl := Option.some.inj hd
  exact h

mutual
/-- Whether the numbers in a value are numbers. -/
def isProper : Json → Bool
  | number lexeme => isNumber lexeme.toList
  | array vs => areProper vs
  | object ms => areProperUnder ms
  | _ => true

/-- Whether the numbers in all of these are. -/
def areProper : List Json → Bool
  | [] => true
  | v :: vs => isProper v && areProper vs

/-- Whether the numbers under all of these keys are. -/
def areProperUnder : List (Option String × Json) → Bool
  | [] => true
  | (_, v) :: ms => isProper v && areProperUnder ms
end

theorem areProper_iff {vs : List Json} : areProper vs = true ↔ ∀ v ∈ vs, v.isProper = true := by
  induction vs with
  | nil => simp [areProper]
  | cons v vs ih => rw [areProper, Bool.and_eq_true, ih, List.forall_mem_cons]

theorem areProperUnder_iff {ms : List (Option String × Json)} :
    areProperUnder ms = true ↔ ∀ m ∈ ms, m.2.isProper = true := by
  induction ms with
  | nil => simp [areProperUnder]
  | cons m ms ih =>
    obtain ⟨k, v⟩ := m
    rw [areProperUnder, Bool.and_eq_true, ih, List.forall_mem_cons]

/-- A character that a written value may begin with: neither a blank nor one that closes. -/
def opens (c : Char) : Bool :=
  isNumeric c || c = 'n' || c = 't' || c = 'f' || c = '"' || c = '[' || c = '\x7b'

theorem exists_opens_chars {v : Json} (h : v.isProper = true) :
    ∃ c cs, v.chars = c :: cs ∧ opens c = true := by
  cases v with
  | null => exact ⟨_, _, rfl, rfl⟩
  | bool b => cases b <;> exact ⟨_, _, rfl, rfl⟩
  | number lexeme =>
    rw [isProper] at h
    obtain ⟨c, cs, hcs⟩ := List.exists_cons_of_ne_nil (isNumber_ne_nil h)
    have numeric := all_isNumeric_of_isNumber h
    rw [hcs, List.all_cons, Bool.and_eq_true] at numeric
    exact ⟨c, cs, by rw [chars, hcs], by simp [opens, numeric.1]⟩
  | string text => cases text <;> exact ⟨_, _, rfl, rfl⟩
  | array vs => exact ⟨_, _, rfl, rfl⟩
  | object ms => exact ⟨_, _, rfl, rfl⟩

theorem skipGaps_of_opens {c : Char} (h : opens c = true) (cs : List Char) :
    skipGaps (c :: cs) = c :: cs := by
  have notGap : isGap c = false := by
    cases hgap : isGap c with
    | false => rfl
    | true =>
      have blank : ((c = ' ' ∨ c = '\t') ∨ c = '\n') ∨ c = '\r' := by simpa [isGap] using hgap
      rcases blank with ((rfl | rfl) | rfl) | rfl <;> exact absurd h (by decide)
  rw [skipGaps, List.dropWhile_cons, notGap]
  rfl

/-- A number is read up to where it ends. -/
theorem value_number {lexeme : String} (h : isNumber lexeme.toList = true) {rest : List Char}
    (hrest : Ends rest) (n : Nat) :
    value (n + 1) (lexeme.toList ++ rest) = some (number lexeme, rest) := by
  have numeric := List.all_eq_true.mp (all_isNumeric_of_isNumber h)
  have ended : rest.takeWhile isNumeric = [] ∧ rest.dropWhile isNumeric = rest := by
    cases rest with
    | nil => exact ⟨rfl, rfl⟩
    | cons d ds =>
      have hd : isNumeric d = false := hrest d rfl
      rw [List.takeWhile_cons, List.dropWhile_cons, hd]
      exact ⟨rfl, rfl⟩
  have take : (lexeme.toList ++ rest).takeWhile isNumeric = lexeme.toList := by
    rw [List.takeWhile_append_of_pos numeric, ended.1, List.append_nil]
  have drop : (lexeme.toList ++ rest).dropWhile isNumeric = rest := by
    rw [List.dropWhile_append_of_pos numeric, ended.2]
  obtain ⟨c, cs, hcs⟩ := List.exists_cons_of_ne_nil (isNumber_ne_nil h)
  have hc : isNumeric c = true := numeric c (by rw [hcs]; exact List.mem_cons_self)
  have skip : skipGaps (lexeme.toList ++ rest) = lexeme.toList ++ rest := by
    rw [hcs]
    exact skipGaps_of_opens (by simp [opens, hc]) _
  -- a numeric character begins nothing but a number
  have begins : ∀ d ds, lexeme.toList ++ rest = d :: ds → isNumeric d = true := by
    intro d ds hd
    rw [hcs, List.cons_append] at hd
    exact (List.cons.inj hd).1 ▸ hc
  rw [value, skip]
  split
  any_goals exact absurd (begins _ _ ‹_›) (by decide)
  rw [take, if_pos h, drop, String.ofList_toList]

theorem value_string (text : Option String) (rest : List Char) (n : Nat) :
    value (n + 1) ((string text).chars ++ rest) = some (string text, rest) := by
  obtain ⟨cs, hcs, hread⟩ := string?_quote text rest
  have head : value (n + 1) ('"' :: cs) = (string? cs).map fun p => (string p.1, p.2) := rfl
  rw [chars, hcs, head, hread, Option.map_some]

theorem itemChars_cons (v : Json) (vs : List Json) :
    ∃ tail, itemChars (v :: vs) = v.chars ++ tail := by
  cases vs with
  | nil => exact ⟨[], by rw [itemChars, List.append_nil]⟩
  | cons w ws => exact ⟨',' :: itemChars (w :: ws), rfl⟩

/-- After an opening bracket, what does not close at once is items. -/
theorem value_bracket {c : Char} (h : opens c = true) (cs : List Char) (n : Nat) :
    value (n + 1) ('[' :: c :: cs) = (items n (c :: cs)).map fun p => (array p.1, p.2) := by
  have skip : skipGaps ('[' :: c :: cs) = '[' :: c :: cs := rfl
  rw [value]
  simp only [skip, skipGaps_of_opens h]
  split
  · next hclose => exact absurd ((List.cons.inj hclose).1 ▸ h) (by decide)
  · rfl

/-- An array is read back when its items are. -/
theorem value_array {vs : List Json} (hvs : areProper vs = true) {n : Nat} {rest : List Char}
    (h : vs ≠ [] → items n (itemChars vs ++ ']' :: rest) = some (vs, rest)) :
    value (n + 1) ((array vs).chars ++ rest) = some (array vs, rest) := by
  rw [chars, List.cons_append, List.append_assoc, List.singleton_append]
  cases vs with
  | nil => rfl
  | cons v vs =>
    rw [areProper, Bool.and_eq_true] at hvs
    obtain ⟨c, cs, hc, hopens⟩ := exists_opens_chars hvs.1
    obtain ⟨tail, htail⟩ := itemChars_cons v vs
    have hread := h (List.cons_ne_nil v vs)
    rw [htail, hc, List.cons_append, List.cons_append] at hread ⊢
    rw [value_bracket hopens, hread, Option.map_some]

/-- An object is read back when its members are. -/
theorem value_object {ms : List (Option String × Json)} {n : Nat} {rest : List Char}
    (h : ms ≠ [] → members n (memberChars ms ++ '\x7d' :: rest) = some (ms, rest)) :
    value (n + 1) ((object ms).chars ++ rest) = some (object ms, rest) := by
  rw [chars, List.cons_append, List.append_assoc, List.singleton_append]
  have brace : ∀ cs, value (n + 1) ('\x7b' :: '"' :: cs) =
      (members n ('"' :: cs)).map fun p => (object p.1, p.2) := fun _ => rfl
  cases ms with
  | nil => rfl
  | cons m ms =>
    have hread := h (List.cons_ne_nil m ms)
    have quoted : ∃ cs, memberChars (m :: ms) ++ '\x7d' :: rest = '"' :: cs := by
      obtain ⟨k, v⟩ := m
      cases ms <;> cases k <;> exact ⟨_, rfl⟩
    obtain ⟨cs, hcs⟩ := quoted
    rw [hcs] at hread ⊢
    rw [brace, hread, Option.map_some]

theorem items_last {n : Nat} {cs r : List Char} {v : Json}
    (h : value n cs = some (v, ']' :: r)) : items (n + 1) cs = some ([v], r) := by
  rw [items, h]
  rfl

theorem items_next {n : Nat} {cs r : List Char} {v : Json}
    (h : value n cs = some (v, ',' :: r)) :
    items (n + 1) cs = (items n r).map fun p => (v :: p.1, p.2) := by
  rw [items, h]
  rfl

section Members

variable {n : Nat} {key : Option String} {cs r : List Char} {v : Json}

theorem members_last (h : value n cs = some (v, '\x7d' :: r)) :
    members (n + 1) (quote key ++ ':' :: cs) = some ([(key, v)], r) := by
  obtain ⟨ks, hks, hread⟩ := string?_quote key (':' :: cs)
  have skip : skipGaps ('"' :: ks) = '"' :: ks := rfl
  have colon : skipGaps (':' :: cs) = ':' :: cs := rfl
  have brace : skipGaps ('\x7d' :: r) = '\x7d' :: r := rfl
  rw [hks, members, skip]
  simp only [hread, colon, h, brace]

theorem members_next (h : value n cs = some (v, ',' :: r)) :
    members (n + 1) (quote key ++ ':' :: cs) =
      (members n r).map fun p => ((key, v) :: p.1, p.2) := by
  obtain ⟨ks, hks, hread⟩ := string?_quote key (':' :: cs)
  have skip : skipGaps ('"' :: ks) = '"' :: ks := rfl
  have colon : skipGaps (':' :: cs) = ':' :: cs := rfl
  have comma : skipGaps (',' :: r) = ',' :: r := rfl
  rw [hks, members, skip]
  simp only [hread, colon, h, comma]

end Members

-- The recursion goes down the value; the bound on calls goes down with it, and what is written of an
-- item or a member is shorter by more than the one call that reads it.
mutual
/-- **A written value is read back**, with what follows it. -/
theorem value_chars : ∀ (v : Json) (n : Nat) (rest : List Char), v.isProper = true →
    2 * v.chars.length ≤ n → Ends rest → value n (v.chars ++ rest) = some (v, rest)
  | v, 0, _, hv, hn, _ => by
    obtain ⟨c, cs, hcs, -⟩ := exists_opens_chars hv
    rw [hcs, List.length_cons] at hn
    omega
  | .null, n + 1, _, _, _, _ => rfl
  | .bool true, n + 1, _, _, _, _ => rfl
  | .bool false, n + 1, _, _, _, _ => rfl
  | .number lexeme, n + 1, rest, hv, _, hrest => by
    rw [isProper] at hv
    rw [chars]
    exact value_number hv hrest n
  | .string text, n + 1, rest, _, _, _ => value_string text rest n
  | .array vs, n + 1, rest, hv, hn, _ => by
    rw [isProper] at hv
    refine value_array hv fun hne => ?_
    obtain ⟨v, vs, rfl⟩ := List.exists_cons_of_ne_nil hne
    refine items_itemChars v vs n rest hv ?_
    rw [chars, List.length_cons, List.length_append, List.length_singleton] at hn
    omega
  | .object ms, n + 1, rest, hv, hn, _ => by
    rw [isProper] at hv
    refine value_object fun hne => ?_
    obtain ⟨m, ms, rfl⟩ := List.exists_cons_of_ne_nil hne
    refine members_memberChars m ms n rest hv ?_
    rw [chars, List.length_cons, List.length_append, List.length_singleton] at hn
    omega

theorem items_itemChars : ∀ (v : Json) (vs : List Json) (n : Nat) (rest : List Char),
    areProper (v :: vs) = true → 2 * (itemChars (v :: vs)).length + 1 ≤ n →
    items n (itemChars (v :: vs) ++ ']' :: rest) = some (v :: vs, rest)
  | v, [], 0, _, _, hn => absurd hn (by omega)
  | v, w :: vs, 0, _, _, hn => absurd hn (by omega)
  | v, [], n + 1, rest, hvs, hn => by
    rw [areProper, Bool.and_eq_true] at hvs
    rw [itemChars] at hn ⊢
    exact items_last (value_chars v n (']' :: rest) hvs.1 (by omega) (ends_cons rfl rest))
  | v, w :: vs, n + 1, rest, hvs, hn => by
    rw [areProper, Bool.and_eq_true] at hvs
    have parts : itemChars (v :: w :: vs) = v.chars ++ ',' :: itemChars (w :: vs) := rfl
    rw [parts, List.length_append, List.length_cons] at hn
    rw [parts, List.append_assoc, List.cons_append,
      items_next (value_chars v n (',' :: _) hvs.1 (by omega) (ends_cons rfl _)),
      items_itemChars w vs n rest hvs.2 (by omega), Option.map_some]

theorem members_memberChars : ∀ (m : Option String × Json) (ms : List (Option String × Json))
    (n : Nat) (rest : List Char), areProperUnder (m :: ms) = true →
    2 * (memberChars (m :: ms)).length + 1 ≤ n →
    members n (memberChars (m :: ms) ++ '\x7d' :: rest) = some (m :: ms, rest)
  | m, [], 0, _, _, hn => absurd hn (by omega)
  | m, w :: ms, 0, _, _, hn => absurd hn (by omega)
  | (k, v), [], n + 1, rest, hms, hn => by
    rw [areProperUnder, Bool.and_eq_true] at hms
    rw [memberChars, List.length_append, List.length_cons] at hn
    rw [memberChars, List.append_assoc, List.cons_append]
    exact members_last
      (value_chars v n ('\x7d' :: rest) hms.1 (by omega) (ends_cons rfl rest))
  | (k, v), w :: ms, n + 1, rest, hms, hn => by
    rw [areProperUnder, Bool.and_eq_true] at hms
    have parts : memberChars ((k, v) :: w :: ms) =
        quote k ++ ':' :: v.chars ++ ',' :: memberChars (w :: ms) := rfl
    rw [parts, List.length_append, List.length_append, List.length_cons, List.length_cons] at hn
    rw [parts, List.append_assoc, List.append_assoc, List.cons_append, List.cons_append,
      members_next (value_chars v n (',' :: _) hms.1 (by omega) (ends_cons rfl _)),
      members_memberChars w ms n rest hms.2 (by omega), Option.map_some]
end

/-- **The written form of a value is read as the value.** -/
theorem read?_write {v : Json} (h : v.isProper = true) : read? v.write = some v := by
  have written : v.write.toList = v.chars := String.toList_ofList
  have length : v.write.length = v.chars.length := by rw [← String.length_toList, written]
  have whole := value_chars v (2 * v.write.length + 2) [] h (by omega) ends_nil
  rw [List.append_nil] at whole
  rw [read?, written, whole]
  rfl

end Json
end MarkupSearch
