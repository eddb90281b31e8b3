/-
# The report on a page that could be read

Links on a page are those of a forest, whatever reads documents, so nothing fails once the page has
been read. A listing of matches then has an entry for each match, in the order in which they are
found, and the command exits with code 0 whatever the selector is (`unfailing_once_read`).

Key definitions: `CommandLine.Entry`, `CommandLine.Opens`.
Key theorems: `CommandLine.listMatches_eq`, `CommandLine.unfailing_once_read`.
-/
import MarkupSearch.CommandLine
import MarkupSearch.Proofs.Page
import MarkupSearch.Proofs.Unfailing

namespace MarkupSearch
namespace CommandLine

/-- What is printed of one match. -/
structure Entry where
  id : NodeId
  markup : String
  text : String

/-- The two lines of an entry. -/
def Entry.lines (e : Entry) : String :=
  "#" ++ toString e.id.toNat ++ ": " ++ e.markup ++ "\n" ++
    "    text: " ++ Text.display e.text ++ "\n"

/-- The entry of a match gives its markup, comments included, and its text. -/
def Entry.IsOf (a : Arena) (e : Entry) : Prop :=
  a.render {} e.id = .ok e.markup ∧ a.textContent e.id = .ok e.text

/-- Where nothing fails, matches are listed one after the other, each with its entry. -/
theorem listMatches_eq {a : Arena} (h : a.Unfailing) : ∀ {ids : List NodeId},
    (∀ id ∈ ids, a.InRange id) → ∀ printed : String, ∃ entries : List Entry,
      entries.map (·.id) = ids ∧ (∀ e ∈ entries, e.IsOf a) ∧
        listMatches a printed ids = ⟨0, printed ++ String.join (entries.map Entry.lines)⟩
  | [], _, printed => ⟨[], rfl, by simp, by rw [listMatches]; simp⟩
  | id :: ids, hids, printed => by
    have hid := hids id List.mem_cons_self
    obtain ⟨markup, hmarkup⟩ := h.render {} id hid
    obtain ⟨text, htext⟩ := h.textContent id hid
    let e : Entry := ⟨id, markup, text⟩
    obtain ⟨entries, hentries, each, hlist⟩ :=
      listMatches_eq h (fun c hc => hids c (List.mem_cons_of_mem _ hc)) (printed ++ e.lines)
    refine ⟨e :: entries, by rw [List.map_cons, hentries], ?_, ?_⟩
    · exact List.forall_mem_cons.mpr ⟨⟨hmarkup, htext⟩, each⟩
    · have first : listMatches a printed (id :: ids) = listMatches a (printed ++ e.lines) ids := by
        simp only [listMatches, hmarkup, htext, e, Entry.lines, String.append_assoc]
      rw [first, hlist, List.map_cons, String.join_cons, String.append_assoc]

/-- The arguments lead to a source, that of the page they name or of the sample page, which can be
read, and the document that a reader makes of it is not too large. -/
structure Opens {m : Type → Type} [Monad m] (read : List (List UInt8) → Document)
    (args : List String) (openPath : String → m (Option Source)) (source : Source) : Prop where
  page :
    match args[1]? with
    | some path => openPath path = pure (some source)
    | none => source = .ofText samplePage
  fits : ∃ blocks, source.readAll = .ok blocks ∧
    (Import.tree false (read blocks)).size ≤ UInt32.size

theorem runWith_eq {m : Type → Type} [Monad m] [LawfulMonad m]
    {read : List (List UInt8) → Document} {args : List String}
    {openPath : String → m (Option Source)} {source : Source}
    (h : Opens read args openPath source) :
    runWith read args openPath =
      pure (onPage read (args[0]?.getD defaultSelector) (some source)) := by
  have hpage := h.page
  unfold runWith
  cases hp : args[1]? with
  | some path =>
    rw [hp] at hpage
    simp only [hpage, pure_bind]
  | none =>
    rw [hp] at hpage
    simp only [hpage, pure_bind]

/-- **Nothing fails once a page has been read.** On a page that could be read, whatever reads the
document, no look-up from an id in range fails. The command, on a page that can be opened and read
and whatever reads the document, exits with code 0; it prints the number of matches and then an
entry for each match of the selector, in the order in which they are found. -/
theorem unfailing_once_read :
    (∀ (l : Loader) (read : List (List UInt8) → Document) (s : Source)
      (blocks : List (List UInt8)), s.readAll = .ok blocks →
      (Import.tree l.dropBlankText (read blocks)).size ≤ UInt32.size →
      ∃ a : Arena, l.loadWith read s = (.ok 0, { l with arena := a }) ∧ a.Unfailing) ∧
    ∀ {m : Type → Type} [Monad m] [LawfulMonad m] (read : List (List UInt8) → Document)
      (args : List String) (openPath : String → m (Option Source)) (source : Source),
      Opens read args openPath source →
      ∃ (a : Arena) (entries : List Entry),
        (Loader.new false).loadWith read source = (.ok 0, ⟨false, a⟩) ∧
        entries.map (·.id) = a.query (some 0) (args[0]?.getD defaultSelector) ∧
        (∀ e ∈ entries, e.IsOf a) ∧
        runWith read args openPath = pure ⟨0,
          toString entries.length ++ " match(es) for " ++
            Text.display (args[0]?.getD defaultSelector) ++ "\n" ++
          String.join (entries.map Entry.lines)⟩ := by
  constructor
  · intro l read s blocks hread hsize
    obtain ⟨a, hload, numbers⟩ := l.exists_numbers read hread hsize
    exact ⟨a, hload, numbers.forest.unfailing⟩
  · intro m _ _ read args openPath source hopen
    obtain ⟨blocks, hread, hsize⟩ := hopen.fits
    obtain ⟨a, hload, numbers⟩ := (Loader.new false).exists_numbers read hread hsize
    have unfailing := numbers.forest.unfailing
    let selector := args[0]?.getD defaultSelector
    have found : ∀ id ∈ a.query (some 0) selector, a.InRange id := unfailing.query _ _
    obtain ⟨entries, hentries, each, hlist⟩ := listMatches_eq unfailing found
      (toString (a.query (some 0) selector).length ++ " match(es) for " ++
        Text.display selector ++ "\n")
    have count : (a.query (some 0) selector).length = entries.length := by
      rw [← hentries, List.length_map]
    refine ⟨a, entries, hload, hentries, each, ?_⟩
    rw [runWith_eq hopen, onPage, hload]
    simp only [report]
    rw [hlist, count]

/-- Two paragraphs, with a comment in the second. -/
def paragraphs : Source := .ofText "<p>a<p>b<!--c-->"

theorem unfailing_once_read_paragraphs :
    let openPath : String → Id (Option Source) := fun _ => some paragraphs
    Opens Html.readBlocks ["p", "page.html"] openPath paragraphs ∧
      Opens Html.readBlocks [] openPath (.ofText samplePage) ∧
      (∃ a : Arena, (Loader.new false).load paragraphs = (.ok 0, ⟨false, a⟩) ∧ a.Unfailing) ∧
      (∃ entries : List Entry, entries.map (·.id) = [4, 6] ∧
        run ["p", "page.html"] openPath =
          (⟨0, "2 match(es) for \"p\"\n" ++ String.join (entries.map Entry.lines)⟩ : Outcome)) ∧
      ∃ output, run [] openPath = (⟨0, output⟩ : Outcome) := by
  intro openPath
  have hread : paragraphs.readAll = .ok [Text.octets "<p>a<p>b<!--c-->"] := by decide +kernel
  have hsize : (Import.tree false
      (Html.readBlocks [Text.octets "<p>a<p>b<!--c-->"])).size ≤ UInt32.size := by
    decide +kernel
  have hopen : Opens Html.readBlocks ["p", "page.html"] openPath paragraphs :=
    ⟨rfl, _, hread, hsize⟩
  have hsample : Opens Html.readBlocks [] openPath (.ofText samplePage) :=
    ⟨rfl, [Text.octets samplePage], by decide +kernel, by decide +kernel⟩
  obtain ⟨page, command⟩ := unfailing_once_read
  obtain ⟨a, entries, hload, hids, -, hrun⟩ :=
    command Html.readBlocks ["p", "page.html"] openPath _ hopen
  obtain ⟨_, _, -, -, -, hsampleRun⟩ := command Html.readBlocks [] openPath _ hsample
  have ha : a = ((Loader.new false).loadWith Html.readBlocks paragraphs).2.arena := by rw [hload]
  have hids : entries.map (·.id) = [4, 6] := by
    rw [hids, ha]
    decide +kernel
  have hlength : entries.length = 2 := by
    rw [← List.length_map, hids]
    rfl
  rw [hlength] at hrun
  exact ⟨hopen, hsample, page (Loader.new false) Html.readBlocks _ _ hread hsize,
    ⟨entries, hids, hrun.trans rfl⟩, _, hsampleRun⟩

/-- A comment is part of the markup and not of the text. -/
example : onPage Html.readBlocks "p" (some paragraphs) =
    ⟨0, "2 match(es) for \"p\"\n" ++ "#4: <p>a</p>\n    text: \"a\"\n" ++
      "#6: <p>b<!--c--></p>\n    text: \"b\"\n"⟩ := by
  decide +kernel

end CommandLine
end MarkupSearch
