/-
# Rendering as markup

A node is rendered with all below it, in document order. An element is its start tag, its children
and its end tag; a void element is its start tag alone, whatever children it lists. A text is
escaped unless the node it names as its parent is a raw text element. The first look-up that fails
ends the rendering.

What is still to be written waits on a stack of node openings and element closings, next to come on
top.

Key definitions: `Render.Options`, `Render.step`, `Render.round`, `Arena.render`,
`Arena.renderAll`.
-/
import MarkupSearch.Arena.Paths
import MarkupSearch.Loop
import MarkupSearch.Render.Escape

namespace MarkupSearch
namespace Render

/-- Elements without an end tag. -/
def voidElements : List String :=
  ["area", "base", "basefont", "bgsound", "br", "col", "embed", "frame", "hr", "img", "input",
   "keygen", "link", "meta", "param", "source", "track", "wbr"]

/-- Elements whose texts are written as they are. -/
def rawTextElements : List String :=
  ["iframe", "noembed", "noframes", "noscript", "plaintext", "script", "style", "xmp"]

def isVoid (tag : String) : Bool := voidElements.any fun v => Text.sameAscii tag v

def isRawText (tag : String) : Bool := rawTextElements.any fun r => Text.sameAscii tag r

structure Options where
  /-- Leave comments out. -/
  skipComments : Bool := false
deriving DecidableEq, Repr

/-- What is still to be written. -/
inductive Pending where
  /-- A node with all below it. -/
  | opening (v : Arena.Visit)
  /-- The end tag of an element. -/
  | closing (id : NodeId)
deriving DecidableEq, Repr

/-- An attribute with the space before it. -/
def attributeText (a : Attribute) : String :=
  " " ++ a.name ++ "=\"" ++ Escape.text .quoted a.value ++ "\""

def startTag (n : Node) : String :=
  "<" ++ n.name ++ String.join (n.attributes.map attributeText) ++ ">"

def endTag (n : Node) : String := "</" ++ n.name ++ ">"

/-- Whether a text below this node is written as it is. -/
def rawBelow (parent : Option Node) : Bool :=
  match parent with
  | some p => p.isElement && isRawText p.name
  | none => false

/-- What is written at once for a node that is visited, and what is left to write after it. -/
def openNode (a : Arena) (o : Options) (v : Arena.Visit) (n : Node) :
    Except Failure (String × List Pending) :=
  match n.kind with
  | .element =>
    if isVoid n.name then .ok (startTag n, [])
    else .ok (startTag n, (v.below n.children).map .opening ++ [.closing v.id])
  | .text => do
    let parent ← a.parent v.id
    if rawBelow parent then .ok (n.value, []) else .ok (Escape.text .content n.value, [])
  | .comment => .ok (if o.skipComments then "" else "<!--" ++ n.value ++ "-->", [])
  | .doctype => .ok ("<!DOCTYPE " ++ n.name ++ ">", [])
  | .instruction => .ok ("<?" ++ n.name ++ " " ++ n.value ++ ">", [])
  | .document => .ok ("", (v.below n.children).map .opening)

/-- What is written for one pending piece at once, and what is left to write after it. -/
def step (a : Arena) (o : Options) : Pending → Except Failure (String × List Pending)
  | .opening v => do openNode a o v (← a.get v.id)
  | .closing id => do return (endTag (← a.get id), [])

/-- One round of a rendering: the piece on top of the stack is written after what there is. -/
def round (a : Arena) (o : Options) :
    List Pending × String → Round (List Pending × String) (Except Failure String)
  | ([], out) => .done (.ok out)
  | (p :: waiting, out) =>
    match step a o p with
    | .error e => .done (.error e)
    | .ok (text, more) => .next (more ++ waiting, out ++ text)

/-! ### A rendering ends

A node has at most two pieces, its opening and its closing, for each path that leads to it. -/

/-- The most rounds that pending pieces can take. -/
def weight (a : Arena) : List Pending → Nat
  | [] => 0
  | .opening v :: ps => 2 * a.pathCount v.reach v.id + weight a ps
  | .closing _ :: ps => 1 + weight a ps

@[simp] theorem weight_append (a : Arena) (ps qs : List Pending) :
    weight a (ps ++ qs) = weight a ps + weight a qs := by
  induction ps with
  | nil => simp [weight]
  | cons p ps ih => cases p <;> simp [weight, ih, Nat.add_assoc]

@[simp] theorem weight_map_opening (a : Arena) (vs : List Arena.Visit) :
    weight a (vs.map .opening) = 2 * a.pathsFrom vs := by
  induction vs with
  | nil => rfl
  | cons v vs ih => simp [weight, ih, Nat.mul_add]

theorem weight_openNode {a : Arena} {o : Options} {v : Arena.Visit} {n : Node} {text : String}
    {more : List Pending} (hn : a.get? v.id = some n)
    (h : openNode a o v n = .ok (text, more)) :
    weight a more < 2 * a.pathCount v.reach v.id := by
  have below : 2 * a.pathsFrom (v.below n.children) + 2 = 2 * a.pathCount v.reach v.id := by
    rw [Arena.pathCount_eq, Arena.childIds_of_get? hn]
    omega
  have none : weight a [] < 2 * a.pathCount v.reach v.id := by
    simp only [weight]
    omega
  unfold openNode at h
  cases hk : n.kind <;> simp only [hk] at h
  case element =>
    split at h <;> injection h with h <;> injection h with _ h <;> subst h
    · exact none
    · simp [weight]; omega
  case text =>
    cases hp : a.parent v.id with
    | error e => simp [hp, bind, Except.bind] at h
    | ok parent =>
      simp only [hp, bind, Except.bind] at h
      split at h <;> injection h with h <;> injection h with _ h <;> subst h <;> exact none
  case document =>
    injection h with h
    injection h with _ h
    subst h
    simp
    omega
  all_goals
    injection h with h
    injection h with _ h
    subst h
    exact none

theorem weight_step {a : Arena} {o : Options} {p : Pending} {text : String} {more : List Pending}
    (h : step a o p = .ok (text, more)) : weight a more < weight a [p] := by
  cases p with
  | opening v =>
    simp only [step, Arena.get] at h
    cases hn : a.get? v.id with
    | none => simp [hn, bind, Except.bind] at h
    | some n =>
      simp only [hn, bind, Except.bind] at h
      simpa [weight] using weight_openNode hn h
  | closing id =>
    simp only [step] at h
    cases hn : a.get id with
    | error e => simp [hn, bind, Except.bind] at h
    | ok n =>
      simp only [hn, bind, Except.bind, pure, Except.pure] at h
      injection h with h
      injection h with _ h
      subst h
      simp [weight]

theorem weight_round {a : Arena} {o : Options} {s t : List Pending × String}
    (h : round a o s = .next t) : weight a t.1 < weight a s.1 := by
  obtain ⟨waiting, out⟩ := s
  cases waiting with
  | nil => simp [round] at h
  | cons p waiting =>
    simp only [round] at h
    split at h
    · simp at h
    · next text more hs =>
      injection h with h
      subst h
      have := weight_step hs
      simp only [weight_append, ← List.singleton_append (l := waiting)]
      omega

/-- Works through a stack of pending pieces. -/
def loop (a : Arena) (o : Options) : Loop (List Pending × String) (Except Failure String) where
  round := round a o
  weight s := weight a s.1
  lighter := weight_round

end Render

namespace Arena

/-- The markup of a node and all below it, after what has been written. -/
def renderOnto (a : Arena) (o : Render.Options) (out : String) (id : NodeId) :
    Except Failure String :=
  (Render.loop a o).run ((a.visits [id]).map .opening, out)

/-- The markup of a node and all below it. -/
def render (a : Arena) (o : Render.Options) (id : NodeId) : Except Failure String :=
  a.renderOnto o "" id

/-- The markup of several nodes, one after the other. -/
def renderAll (a : Arena) (o : Render.Options) (ids : List NodeId) : Except Failure String :=
  ids.foldlM (a.renderOnto o) ""

/-- The markup of the root; nothing when none is set. -/
def renderRoot (a : Arena) (o : Render.Options) : Except Failure String :=
  match a.root with
  | some id => a.render o id
  | none => .ok ""

end Arena
end MarkupSearch
