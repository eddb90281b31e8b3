/-
# The JSON forms of selectors and nodes

Natural numbers are written as numbers are, so the values that selectors and nodes are written as
are read back from their texts, whatever characters their names hold. Each field of a record is then
found under its key. Where a record is read from an object, what counts of the object is what it has
under each key, so the order of its members does not matter: a stage whose name comes before its
kind is the same stage.

Key definition: `Stage.members`.
Key theorems: `Json.natBelow?_nat`, `Json.record?_perm`, `Stage.ofJson?_perm`,
`jsonTexts_read_back`.
-/
import Mathlib.Data.List.TakeWhile
import MarkupSearch.Node.Json
import MarkupSearch.Proofs.JsonText
import MarkupSearch.Selector.Json

namespace MarkupSearch
namespace Json

/-! ### Natural numbers -/

theorem toList_toString (n : Nat) : (toString n).toList = Nat.toDigits 10 n := Nat.toList_repr

theorem all_isDigit_toDigits (n : Nat) : (Nat.toDigits 10 n).all Char.isDigit = true :=
  List.all_eq_true.mpr fun _ hc => Nat.isDigit_of_mem_toDigits (by decide) (by decide) hc

/-- No number but zero begins with a zero. -/
theorem head?_toDigits_ne (n : Nat) (h : 0 < n) : (Nat.toDigits 10 n).head? ≠ some '0' := by
  by_cases hten : n < 10
  · have hn : n ≠ 0 := Nat.ne_of_gt h
    rw [Nat.toDigits_of_lt_base hten, List.head?_cons, ne_eq, Option.some.injEq,
      Nat.digitChar_eq_zero]
    exact hn
  · have ih := head?_toDigits_ne (n / 10) (by omega)
    obtain ⟨c, cs, hcs⟩ := List.exists_cons_of_ne_nil (Nat.toDigits_ne_nil (n := n / 10) (b := 10))
    rw [Nat.toDigits_of_base_le (by decide) (Nat.le_of_not_lt hten), hcs]
    rwa [hcs] at ih

theorem digits?_of_all {cs : List Char} (hne : cs ≠ []) (h : cs.all Char.isDigit = true) :
    digits? cs = some [] := by
  obtain ⟨c, cs, rfl⟩ := List.exists_cons_of_ne_nil hne
  rw [List.all_cons, Bool.and_eq_true] at h
  have drop : cs.dropWhile Char.isDigit = [] :=
    List.dropWhile_eq_nil_iff.mpr (List.all_eq_true.mp h.2)
  rw [digits?, if_pos h.1, drop]

theorem whole?_toDigits (n : Nat) : whole? (Nat.toDigits 10 n) = some [] := by
  rcases Nat.eq_zero_or_pos n with rfl | hn
  · rfl
  · have digits := digits?_of_all Nat.toDigits_ne_nil (all_isDigit_toDigits n)
    unfold whole?
    split
    · next hzero => exact absurd (by rw [hzero]; rfl) (head?_toDigits_ne n hn)
    · exact digits

/-- A natural number is written as numbers are. -/
theorem isProper_nat (n : Nat) : (nat n).isProper = true := by
  have digits := all_isDigit_toDigits n
  rw [nat, isProper, toList_toString]
  unfold isNumber
  split
  · next hsign =>
    rw [hsign] at digits
    exact absurd digits (by simp)
  · simp only [whole?_toDigits]
    rfl

/-- And it is read back below any bound that it is below. -/
theorem natBelow?_nat {bound n : Nat} (h : n < bound) : natBelow? bound (nat n) = some n := by
  have digits : ¬ ((Nat.toDigits 10 n).isEmpty || !(Nat.toDigits 10 n).all Char.isDigit) = true := by
    simp [all_isDigit_toDigits, Nat.toDigits_ne_nil]
  have value : Nat.ofDigitChars 10 (Nat.toDigits 10 n) 0 = n :=
    Nat.ofDigitChars_toDigits (by decide) (by decide)
  rw [nat, natBelow?]
  simp only [toList_toString]
  rw [if_neg digits, value, if_pos h]

/-! ### Records -/

/-- What a record's field holds does not depend on the order of the members. -/
theorem field?_perm {ms ms' : List (Option String × Json)} (h : ms.Perm ms') (key : String) :
    field? ms key = field? ms' key := by
  have kept := h.filter fun m => m.1 == some key
  unfold field?
  generalize ms.filter (fun m => m.1 == some key) = l at kept
  generalize ms'.filter (fun m => m.1 == some key) = l' at kept
  match l, l', kept with
  | [], l', kept =>
    obtain rfl := kept.nil_eq
    rfl
  | [m], l', kept =>
    obtain rfl := kept.singleton_eq
    rfl
  | m :: m' :: l, [], kept => exact absurd kept.length_eq (by simp)
  | m :: m' :: l, [n], kept => exact absurd kept.length_eq (by simp)
  | m :: m' :: l, n :: n' :: l', kept => rfl

/-- So a record is read alike from an object in any order. -/
theorem record?_perm {ms ms' : List (Option String × Json)} (h : ms.Perm ms')
    (keys : List String) : (object ms).record? keys = (object ms').record? keys := by
  have texts : (ms.all fun m => m.1.isSome) = ms'.all fun m => m.1.isSome := h.all_eq
  have fields : field? ms = field? ms' := funext (field?_perm h)
  rw [record?, record?, texts, fields]

end Json

/-! ### Lists -/

/-- Values that are each read back are read back in a list. -/
theorem mapM_map_eq_some {α β γ : Type} {f : α → β} {g : β → Option γ} {k : α → γ} {xs : List α}
    (h : ∀ x ∈ xs, g (f x) = some (k x)) : (xs.map f).mapM g = some (xs.map k) := by
  induction xs with
  | nil => rfl
  | cons x xs ih =>
    rw [List.forall_mem_cons] at h
    rw [List.map_cons, List.mapM_cons, h.1, ih h.2]
    rfl

/-- So a list of values is read back. -/
theorem mapM_map_eq_self {α β : Type} {f : α → β} {g : β → Option α} (h : ∀ x, g (f x) = some x)
    (xs : List α) : (xs.map f).mapM g = some xs := by
  have each : (xs.map f).mapM g = some (xs.map fun x => x) := mapM_map_eq_some fun x _ => h x
  rwa [List.map_id'] at each

/-! ### Stages -/

namespace Stage

/-- The members that a stage is written with. -/
def members : Stage → List (Option String × Json)
  | tag name => [Json.member "kind" (.text "tag"), Json.member "name" (.text name)]
  | ofClass name => [Json.member "kind" (.text "class"), Json.member "name" (.text name)]
  | text => [Json.member "kind" (.text "text")]

theorem toJson_eq (s : Stage) : s.toJson = .object s.members := by cases s <;> rfl

theorem ofJson?_toJson (s : Stage) : ofJson? s.toJson = some s := by
  cases s <;> rfl

theorem ofJson?_object (ms : List (Option String × Json)) :
    ofJson? (.object ms) =
      match (Json.object ms).record? ["kind", "name"] with
      | some [some kind, name] => kind.variant?.bind fun k => ofKind? k name
      | _ => none := by
  unfold ofJson?
  split <;> simp_all

/-- **The order of the members of a stage's object does not matter.** -/
theorem ofJson?_perm {ms ms' : List (Option String × Json)} (h : ms.Perm ms') :
    ofJson? (.object ms) = ofJson? (.object ms') := by
  rw [ofJson?_object, ofJson?_object, Json.record?_perm h]

theorem isProper_of_perm (s : Stage) {ms : List (Option String × Json)} (h : ms.Perm s.members) :
    (Json.object ms).isProper = true := by
  have members : Json.areProperUnder s.members = true := by cases s <;> rfl
  rw [Json.areProperUnder_iff] at members
  rw [Json.isProper, Json.areProperUnder_iff]
  exact fun m hm => members m (h.mem_iff.mp hm)

end Stage

/-! ### Nodes -/

theorem NodeId.ofJson?_toJson (id : NodeId) : NodeId.ofJson? id.toJson = some id := by
  have below : id.toNat < UInt32.size := id.toNat_lt
  rw [NodeId.ofJson?, NodeId.toJson, Json.natBelow?_nat below, Option.map_some]
  exact congrArg some UInt32.ofNat_toNat

theorem Attribute.ofJson?_toJson (a : Attribute) : Attribute.ofJson? a.toJson = some a := rfl

theorem NodeKind.ofName?_name (k : NodeKind) : NodeKind.ofName? k.name = some k := by
  cases k <;> decide

namespace Node

theorem parentOfJson?_parentToJson (parent : Option NodeId) :
    parentOfJson? (some (parentToJson parent)) = some parent := by
  cases parent with
  | none => rfl
  | some id =>
    show (NodeId.ofJson? id.toJson).map some = some (some id)
    rw [NodeId.ofJson?_toJson]
    rfl

theorem ofJson?_toJson (n : Node) : ofJson? n.toJson = some n := by
  have fields : n.toJson.record? fields = some
      [some (NodeId.toJson n.id), some (.text n.kind.name), some (parentToJson n.parent),
        some (.array (n.children.map NodeId.toJson)), some (.text n.name), some (.text n.value),
        some (.array (n.attributes.map Attribute.toJson))] := rfl
  have kind : ((Json.text n.kind.name).variant?.bind NodeKind.ofName?) = some n.kind :=
    NodeKind.ofName?_name n.kind
  have children : ((Json.array (n.children.map NodeId.toJson)).items?.bind fun vs =>
      vs.mapM NodeId.ofJson?) = some n.children :=
    mapM_map_eq_self NodeId.ofJson?_toJson n.children
  have attributes : ((Json.array (n.attributes.map Attribute.toJson)).items?.bind fun vs =>
      vs.mapM Attribute.ofJson?) = some n.attributes :=
    mapM_map_eq_self Attribute.ofJson?_toJson n.attributes
  rw [ofJson?, fields]
  simp only [NodeId.ofJson?_toJson, kind, parentOfJson?_parentToJson, children, attributes]
  rfl

theorem isProper_toJson (n : Node) : n.toJson.isProper = true := by
  have id : ∀ id : NodeId, id.toJson.isProper = true := fun id => Json.isProper_nat id.toNat
  have parent : (parentToJson n.parent).isProper = true := by
    cases n.parent with
    | none => rfl
    | some p => exact id p
  have children : Json.areProper (n.children.map NodeId.toJson) = true :=
    Json.areProper_iff.mpr fun v hv => by
      obtain ⟨c, -, rfl⟩ := List.mem_map.mp hv
      exact id c
  have attributes : Json.areProper (n.attributes.map Attribute.toJson) = true :=
    Json.areProper_iff.mpr fun v hv => by
      obtain ⟨a, -, rfl⟩ := List.mem_map.mp hv
      rfl
  simp only [toJson, Json.member, Json.text, Json.isProper, Json.areProperUnder, id, parent,
    children, attributes, Bool.and_self]

end Node

/-! ### Texts -/

/-- A selector is read back from objects of its stages, each with its members in any order. -/
theorem Selector.ofJsonText?_write (arranged : List (Stage × List (Option String × Json)))
    (h : ∀ p ∈ arranged, p.2.Perm p.1.members) :
    Selector.ofJsonText? (Json.array (arranged.map fun p => .object p.2)).write =
      some ⟨arranged.map (·.1)⟩ := by
  have proper : (Json.array (arranged.map fun p => .object p.2)).isProper = true := by
    rw [Json.isProper, Json.areProper_iff]
    intro v hv
    obtain ⟨p, hp, rfl⟩ := List.mem_map.mp hv
    exact p.1.isProper_of_perm (h p hp)
  have stages : (arranged.map fun p => Json.object p.2).mapM Stage.ofJson? =
      some (arranged.map (·.1)) := mapM_map_eq_some fun p hp => by
    rw [Stage.ofJson?_perm (h p hp), ← Stage.toJson_eq, Stage.ofJson?_toJson]
  rw [Selector.ofJsonText?, Json.read?_write proper, Option.bind_some, Selector.ofJson?,
    Json.items?, Option.bind_some, stages, Option.map_some]
  rfl

/-- **The JSON texts of selectors and nodes are read back**, whatever characters, ids and links they
hold; and in the object of a stage the name may come before the kind: the order of the members
matters neither to the stage that any object gives, nor in the text of a selector. -/
theorem jsonTexts_read_back :
    (∀ s : Selector, Selector.ofJsonText? s.toJsonText = some s) ∧
    (∀ n : Node, Node.ofJsonText? n.toJsonText = some n) ∧
    (∀ ms ms', ms.Perm ms' → Stage.ofJson? (.object ms) = Stage.ofJson? (.object ms')) ∧
    ∀ arranged : List (Stage × List (Option String × Json)),
      (∀ p ∈ arranged, p.2.Perm p.1.members) →
      Selector.ofJsonText? (Json.array (arranged.map fun p => .object p.2)).write =
        some ⟨arranged.map (·.1)⟩ := by
  refine ⟨fun s => ?_, fun n => ?_, fun ms ms' h => Stage.ofJson?_perm h,
    Selector.ofJsonText?_write⟩
  · have arranged := Selector.ofJsonText?_write (s.stages.map fun t => (t, t.members))
      (List.forall_mem_map.mpr fun t _ => .refl _)
    have objects : (s.stages.map fun t => (t, t.members)).map (fun p => Json.object p.2) =
        s.stages.map Stage.toJson := by
      rw [List.map_map]
      exact List.map_congr_left fun t _ => t.toJson_eq.symm
    have stages : (s.stages.map fun t => (t, t.members)).map (·.1) = s.stages := by
      rw [List.map_map]
      exact List.map_id' _
    rwa [objects, stages] at arranged
  · rw [Node.ofJsonText?, Node.toJsonText, Json.read?_write n.isProper_toJson]
    exact n.ofJson?_toJson

/-- The members of a class's stage, with the name before the kind. -/
def Stage.nameFirst (name : String) : List (Option String × Json) :=
  [Json.member "name" (.text name), Json.member "kind" (.text "class")]

theorem jsonTexts_read_back_nameFirst :
    (Stage.nameFirst "a\"\n").Perm (Stage.ofClass "a\"\n").members ∧
    Stage.ofJson? (.object (Stage.nameFirst "a\"\n")) = some (.ofClass "a\"\n") ∧
    Selector.ofJsonText?
        "[\x7b\"name\":\"a\\\"\\n\",\"kind\":\"class\"\x7d,\x7b\"kind\":\"text\"\x7d]" =
      some ⟨[.ofClass "a\"\n", .text]⟩ := by
  have swapped : (Stage.nameFirst "a\"\n").Perm (Stage.ofClass "a\"\n").members := .swap _ _ _
  obtain ⟨-, -, stage, selector⟩ := jsonTexts_read_back
  have text := selector [(.ofClass "a\"\n", Stage.nameFirst "a\"\n"), (.text, Stage.text.members)]
    (by simp only [List.forall_mem_cons]; exact ⟨swapped, .refl _, by simp⟩)
  refine ⟨swapped, ?_, text⟩
  rw [stage _ _ swapped]
  rfl

end MarkupSearch
