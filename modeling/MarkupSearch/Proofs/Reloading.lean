/-
# A loader holds the last page that could be read

A source is read up to its first reading without octets, past interruptions, unless a reading fails
before that (`Source.FailsWith`); then all that was read is dropped. What is read are the octets of
the readings up to there (`Source.bytes`), in blocks (`Source.readAll_of_not_failsWith`).

A loader looks at a source before it touches its arena, and clears the arena before it takes the
document over. So a call that fails leaves the loader as it was, and a call that does not leaves
an arena that hangs on the source alone (`Loader.answer_of_readAll`). After any run of calls the
arena is therefore what the last successful call makes of a loader without a page
(`Loader.arena_runs`), and when the reader of documents hangs on the octets alone, so does the
arena.

Key definitions: `Source.FailsWith`, `Source.bytes`, `Loader.Call`, `Loader.runs`,
`Loader.lastLoaded`.
Key theorems: `Source.readAll_of_failsWith`, `Source.readAll_of_not_failsWith`,
`Loader.answer_of_readAll`, `Loader.arena_runs`, `Loader.arena_after_calls`.
-/
import MarkupSearch.Proofs.Numbering

namespace MarkupSearch

deriving instance DecidableEq for Reading

namespace Reading

/-- Whether a source is read on after this reading. -/
def goesOn : Reading → Bool
  | octets bytes => !bytes.isEmpty
  | interrupted => true
  | failed _ => false

/-- The octets of a reading. -/
def bytes : Reading → List UInt8
  | octets bytes => bytes
  | interrupted => []
  | failed _ => []

end Reading

namespace Source

/-- A reading fails for this reason before one comes to the end. -/
def FailsWith (s : Source) (reason : String) : Prop :=
  ∃ before after, s = before ++ .failed reason :: after ∧ ∀ r ∈ before, r.goesOn = true

/-- The octets up to the end or the first failure. -/
def bytes (s : Source) : List UInt8 := (s.takeWhile Reading.goesOn).flatMap Reading.bytes

variable {s : Source}

theorem failsWith_cons {r : Reading} (h : r.goesOn = true) (reason : String) :
    FailsWith (r :: s) reason ↔ s.FailsWith reason := by
  constructor
  · rintro ⟨before, after, hs, hb⟩
    cases before with
    | nil =>
      rw [List.nil_append, List.cons.injEq] at hs
      rw [hs.1] at h
      exact absurd h Bool.false_ne_true
    | cons r' before =>
      rw [List.cons_append, List.cons.injEq] at hs
      exact ⟨before, after, hs.2, fun r hr => hb r (List.mem_cons_of_mem r' hr)⟩
  · rintro ⟨before, after, rfl, hb⟩
    exact ⟨r :: before, after, rfl, List.forall_mem_cons.mpr ⟨h, hb⟩⟩

theorem bytes_cons {r : Reading} (h : r.goesOn = true) : bytes (r :: s) = r.bytes ++ s.bytes := by
  rw [bytes, List.takeWhile_cons_of_pos h, List.flatMap_cons]
  rfl

/-- A reading that is read on after adds its octets to what was read. -/
theorem readOnto_cons {r : Reading} (h : r.goesOn = true) (read : List (List UInt8)) :
    ∃ read' : List (List UInt8), read'.reverse.flatten = read.reverse.flatten ++ r.bytes ∧
      readOnto read (r :: s) = readOnto read' s := by
  cases r with
  | octets bytes =>
    cases bytes with
    | nil => exact absurd h (by decide)
    | cons b bytes =>
      refine ⟨(blocks (b :: bytes)).reverse ++ read, ?_, rfl⟩
      rw [List.reverse_append, List.reverse_reverse, List.flatten_append, flatten_blocks]
      rfl
  | interrupted => exact ⟨read, (List.append_nil _).symm, rfl⟩
  | failed reason => exact absurd h Bool.false_ne_true

theorem readOnto_of_failsWith {reason : String} (h : s.FailsWith reason)
    (read : List (List UInt8)) : readOnto read s = .error (.unreadable reason) := by
  obtain ⟨before, after, rfl, hb⟩ := h
  induction before generalizing read with
  | nil => rfl
  | cons r before ih =>
    obtain ⟨read', -, e⟩ := readOnto_cons (s := before ++ .failed reason :: after)
      (hb r List.mem_cons_self) read
    rw [List.cons_append, e]
    exact ih read' fun r' hr => hb r' (List.mem_cons_of_mem r hr)

theorem readOnto_of_not_failsWith (h : ∀ reason, ¬ s.FailsWith reason)
    (read : List (List UInt8)) :
    ∃ blocks, readOnto read s = .ok blocks ∧ blocks.flatten = read.reverse.flatten ++ s.bytes := by
  induction s generalizing read with
  | nil => exact ⟨read.reverse, rfl, (List.append_nil _).symm⟩
  | cons r s ih =>
    by_cases hr : r.goesOn = true
    · obtain ⟨read', hread, e⟩ := readOnto_cons (s := s) hr read
      obtain ⟨blocks, hok, hflat⟩ := ih (fun reason => (failsWith_cons hr reason).not.mp (h reason))
        read'
      exact ⟨blocks, e.trans hok, by rw [hflat, hread, bytes_cons hr, List.append_assoc]⟩
    · -- the end: a failure is out of the question
      cases r with
      | octets bytes =>
        obtain rfl : bytes = [] := by simpa [Reading.goesOn] using hr
        exact ⟨read.reverse, rfl, (List.append_nil _).symm⟩
      | interrupted => exact absurd rfl hr
      | failed reason => exact absurd ⟨[], s, rfl, by simp⟩ (h reason)

/-- A source that fails before its end cannot be read. -/
theorem readAll_of_failsWith {reason : String} (h : s.FailsWith reason) :
    s.readAll = .error (.unreadable reason) :=
  readOnto_of_failsWith h []

/-- **Any other source is read**, and the blocks are its octets. -/
theorem readAll_of_not_failsWith (h : ∀ reason, ¬ s.FailsWith reason) :
    ∃ blocks, s.readAll = .ok blocks ∧ blocks.flatten = s.bytes :=
  readOnto_of_not_failsWith h []

theorem flatten_of_readAll {blocks : List (List UInt8)} (h : s.readAll = .ok blocks) :
    blocks.flatten = s.bytes := by
  have hno : ∀ reason, ¬ s.FailsWith reason := by
    intro reason hr
    rw [readAll_of_failsWith hr] at h
    exact absurd h (by simp)
  obtain ⟨blocks', hok, hflat⟩ := readAll_of_not_failsWith hno
  rw [h, Except.ok.injEq] at hok
  rw [hok, hflat]

end Source

namespace Loader

/-- What a loader may be asked to load. -/
inductive Call where
  | text (s : String)
  | source (s : Source)
deriving DecidableEq

/-- The source of a call: a text gives its octets at once. -/
def Call.readings : Call → Source
  | text s => .ofText s
  | source s => s

/-- The outcome of a call and the loader after it. -/
def answer (read : List (List UInt8) → Document) (l : Loader) (c : Call) :
    Except Failure NodeId × Loader :=
  l.loadWith read c.readings

/-- If the source of a call can be read, its document has no more nodes than there are ids. -/
def Call.Fits (read : List (List UInt8) → Document) (dropBlankText : Bool) (c : Call) : Prop :=
  ∀ blocks, c.readings.readAll = .ok blocks →
    (Import.tree dropBlankText (read blocks)).size ≤ UInt32.size

theorem Call.fits_of_readAll {read : List (List UInt8) → Document} {dropBlankText : Bool} {c : Call}
    (blocks : List (List UInt8)) (h : c.readings.readAll = .ok blocks)
    (hsize : (Import.tree dropBlankText (read blocks)).size ≤ UInt32.size) :
    c.Fits read dropBlankText := by
  intro blocks' h'
  rw [h, Except.ok.injEq] at h'
  exact h' ▸ hsize

/-- Makes calls one after the other: each call with its outcome, and the loader after all. -/
def runs (read : List (List UInt8) → Document) :
    Loader → List Call → List (Call × Except Failure NodeId) × Loader
  | l, [] => ([], l)
  | l, c :: cs =>
    let (out, l) := answer read l c
    let (outs, l) := runs read l cs
    ((c, out) :: outs, l)

/-- The last call that succeeded. -/
def lastLoaded (outs : List (Call × Except Failure NodeId)) : Option Call :=
  (outs.filter fun o => o.2.isOk).getLast?.map (·.1)

variable {read : List (List UInt8) → Document} {l : Loader} {c : Call}

/-! ### One call -/

/-- A call that cannot read its source fails and changes nothing. -/
theorem answer_of_failsWith {reason : String} (h : c.readings.FailsWith reason) (l : Loader) :
    answer read l c = (.error (.unreadable reason), l) := by
  rw [answer, loadWith, Source.readAll_of_failsWith h]

/-- **A call that reads its source** leaves the document numbered in pre-order, whatever was there
before. -/
theorem answer_of_readAll {blocks : List (List UInt8)} (h : c.readings.readAll = .ok blocks)
    (hsize : (Import.tree l.dropBlankText (read blocks)).size ≤ UInt32.size) :
    answer read l c = (.ok 0, { l with arena :=
      ⟨((Import.tree l.dropBlankText (read blocks)).nodes none 0).toArray, some 0⟩ }) :=
  l.loadWith_of_readAll read h hsize

/-- What one call comes to: it fails and changes nothing, or it succeeds, and would leave the same
arena in any loader of the same kind. -/
theorem answer_cases (l : Loader) (h : c.Fits read l.dropBlankText) :
    (∃ reason, c.readings.FailsWith reason ∧
      answer read l c = (.error (.unreadable reason), l)) ∨
    ((∀ reason, ¬ c.readings.FailsWith reason) ∧ ∃ a : Arena, ∀ l' : Loader,
      l'.dropBlankText = l.dropBlankText → answer read l' c = (.ok 0, { l' with arena := a })) := by
  by_cases hf : ∃ reason, c.readings.FailsWith reason
  · obtain ⟨reason, hf⟩ := hf
    exact Or.inl ⟨reason, hf, answer_of_failsWith hf l⟩
  · rw [not_exists] at hf
    obtain ⟨blocks, hok, -⟩ := Source.readAll_of_not_failsWith hf
    refine Or.inr ⟨hf, ⟨((Import.tree l.dropBlankText (read blocks)).nodes none 0).toArray, some 0⟩,
      fun l' hl => ?_⟩
    have hsize := h blocks hok
    rw [← hl] at hsize ⊢
    exact answer_of_readAll hok hsize

/-- Calls that succeed on the same octets leave the same arena, when the reader of documents hangs
on the octets alone. -/
theorem arena_answer_eq (same : ∀ blocks blocks' : List (List UInt8),
      blocks.flatten = blocks'.flatten → read blocks = read blocks') {l l' : Loader} {c c' : Call}
    (hl : l.dropBlankText = l'.dropBlankText) (hok : (answer read l c).1.isOk = true)
    (hok' : (answer read l' c').1.isOk = true) (hbytes : c.readings.bytes = c'.readings.bytes) :
    (answer read l c).2.arena = (answer read l' c').2.arena := by
  rw [answer, loadWith] at hok ⊢
  rw [answer, loadWith] at hok' ⊢
  cases hr : c.readings.readAll with
  | error e => rw [hr] at hok; exact absurd hok (by simp [Except.isOk, Except.toBool])
  | ok blocks =>
    cases hr' : c'.readings.readAll with
    | error e => rw [hr'] at hok'; exact absurd hok' (by simp [Except.isOk, Except.toBool])
    | ok blocks' =>
      have hread : read blocks = read blocks' :=
        same _ _ (by rw [Source.flatten_of_readAll hr, Source.flatten_of_readAll hr', hbytes])
      simp only [hread, hl]
      rw [replace, Edit.outcome_bind, Edit.outcome_bind, Edit.outcome_clear, Edit.outcome_clear]

/-! ### Runs of calls -/

/-- The last success of a run is in the rest of the run, or else it is the first call's. -/
theorem lastLoaded_cons (c : Call) (out : Except Failure NodeId)
    (outs : List (Call × Except Failure NodeId)) :
    lastLoaded ((c, out) :: outs) =
      match lastLoaded outs with
      | some d => some d
      | none => if out.isOk then some c else none := by
  have before : ∀ xs : List (Call × Except Failure NodeId),
      ((c, out) :: xs).getLast?.map (·.1) = some ((xs.getLast?.map (·.1)).getD c) := by
    intro xs
    rw [List.getLast?_cons]
    cases xs.getLast? <;> rfl
  rw [lastLoaded, lastLoaded, List.filter_cons]
  by_cases hok : out.isOk = true
  · rw [if_pos hok, if_pos hok, before]
    cases ((outs.filter fun o => o.2.isOk).getLast?.map (·.1)) <;> rfl
  · rw [if_neg hok, if_neg hok]
    cases ((outs.filter fun o => o.2.isOk).getLast?.map (·.1)) <;> rfl

theorem runs_cons (l : Loader) (c : Call) (cs : List Call) :
    runs read l (c :: cs) =
      ((c, (answer read l c).1) :: (runs read (answer read l c).2 cs).1,
        (runs read (answer read l c).2 cs).2) := rfl

/-- **A run of calls** leaves the arena of the last call that succeeded, made by itself in a fresh
loader of the same kind, or else the arena there was. -/
theorem arena_runs (fresh : Loader) : ∀ (calls : List Call) (l : Loader),
    l.dropBlankText = fresh.dropBlankText →
    (∀ c ∈ calls, c.Fits read fresh.dropBlankText) →
    (runs read l calls).2.arena =
      match lastLoaded (runs read l calls).1 with
      | some c => (answer read fresh c).2.arena
      | none => l.arena := by
  intro calls
  induction calls with
  | nil => exact fun l _ _ => rfl
  | cons c cs ih =>
    intro l hl hfits
    have hrest : ∀ c ∈ cs, c.Fits read fresh.dropBlankText := fun d hd =>
      hfits d (List.mem_cons_of_mem c hd)
    have hc : c.Fits read l.dropBlankText := hl ▸ hfits c List.mem_cons_self
    rw [runs_cons, lastLoaded_cons]
    rcases answer_cases l hc with ⟨reason, -, e⟩ | ⟨-, a, e⟩
    · rw [e, ih l hl hrest]
      cases lastLoaded (runs read l cs).1 <;> rfl
    · rw [e l rfl, ih { l with arena := a } hl hrest]
      cases lastLoaded (runs read { l with arena := a } cs).1 with
      | some d => rfl
      | none =>
        change a = (answer read fresh c).2.arena
        rw [e fresh hl.symm]

/-- **A loader's page hangs on its last successful call only.** After any calls the arena is what
the last one that succeeded makes of a loader without a page, or is empty when none did. A call
fails exactly when a reading of its source fails before the end, with the reason of that failure,
and leaves the loader as it was. Where the reader of documents hangs on the octets alone, calls that
succeed on the same octets leave the same arena, however the octets came. -/
theorem arena_after_calls (read : List (List UInt8) → Document) (dropBlankText : Bool) :
    (∀ (capacity : Nat) (calls : List Call), (∀ c ∈ calls, c.Fits read dropBlankText) →
      let fresh : Loader := ⟨dropBlankText, .withCapacity capacity⟩
      (runs read fresh calls).2.arena =
        match lastLoaded (runs read fresh calls).1 with
        | some c => (answer read fresh c).2.arena
        | none => ⟨#[], none⟩) ∧
    (∀ (l : Loader) (c : Call), l.dropBlankText = dropBlankText → c.Fits read dropBlankText →
      ((∃ e, (answer read l c).1 = .error e) ↔ ∃ reason, c.readings.FailsWith reason) ∧
      ∀ reason, c.readings.FailsWith reason →
        answer read l c = (.error (.unreadable reason), l)) ∧
    ((∀ blocks blocks' : List (List UInt8), blocks.flatten = blocks'.flatten →
        read blocks = read blocks') →
      ∀ (l l' : Loader) (c c' : Call), l.dropBlankText = dropBlankText →
        l'.dropBlankText = dropBlankText → (answer read l c).1.isOk = true →
        (answer read l' c').1.isOk = true → c.readings.bytes = c'.readings.bytes →
        (answer read l c).2.arena = (answer read l' c').2.arena) := by
  refine ⟨fun capacity calls hfits => arena_runs ⟨dropBlankText, .withCapacity capacity⟩ calls _ rfl
    hfits, fun l c hl hfits => ⟨?_, fun reason hf => answer_of_failsWith hf l⟩,
    fun same l l' c c' hl hl' => arena_answer_eq same (hl.trans hl'.symm)⟩
  subst hl
  rcases answer_cases l hfits with ⟨reason, hf, e⟩ | ⟨hf, a, e⟩
  · rw [e]
    exact iff_of_true ⟨_, rfl⟩ ⟨reason, hf⟩
  · rw [e l rfl]
    exact iff_of_false (by simp) (not_exists.mpr hf)

/-- The reader of HTML on octets that are taken together. -/
def readTogether (blocks : List (List UInt8)) : Document :=
  Html.read (Text.decode [blocks.flatten])

theorem arena_after_calls_interrupted :
    let whole := Call.text "<p>é"
    let pieces := Call.source [.octets [0x3C, 0x70, 0x3E, 0xC3], .interrupted, .octets [0xA9]]
    let broken := Call.source [.octets [0x61], .failed "reset"]
    let fresh : Loader := ⟨true, .withCapacity 8⟩
    whole.Fits readTogether true ∧ pieces.Fits readTogether true ∧ broken.Fits readTogether true ∧
      lastLoaded (runs readTogether fresh [.text "", whole, broken]).1 = some whole ∧
      (runs readTogether fresh [.text "", whole, broken]).2.arena =
        (answer readTogether fresh whole).2.arena ∧
      answer readTogether fresh broken = (.error (.unreadable "reset"), fresh) ∧
      (answer readTogether fresh whole).2.arena = (answer readTogether fresh pieces).2.arena := by
  intro whole pieces broken fresh
  have hempty : (Call.text "").Fits readTogether true :=
    Call.fits_of_readAll [] (by decide +kernel) (by decide +kernel)
  have hwhole : whole.Fits readTogether true :=
    Call.fits_of_readAll [[0x3C, 0x70, 0x3E, 0xC3, 0xA9]] (by decide +kernel)
      (by decide +kernel)
  have hpieces : pieces.Fits readTogether true :=
    Call.fits_of_readAll [[0x3C, 0x70, 0x3E, 0xC3], [0xA9]] (by decide +kernel)
      (by decide +kernel)
  have hfails : broken.readings.FailsWith "reset" := ⟨[.octets [0x61]], [], rfl, by decide⟩
  have hbroken : broken.Fits readTogether true := by
    intro blocks h
    rw [Source.readAll_of_failsWith hfails] at h
    exact absurd h (by simp)
  have hlast : lastLoaded (runs readTogether fresh [.text "", whole, broken]).1 = some whole := by
    decide +kernel
  obtain ⟨run, one, together⟩ := arena_after_calls readTogether true
  have hrun := run 8 [.text "", whole, broken] (by simp [hempty, hwhole, hbroken])
  simp only at hrun
  rw [hlast] at hrun
  refine ⟨hwhole, hpieces, hbroken, hlast, hrun, (one fresh broken rfl hbroken).2 _ hfails,
    together ?_ fresh fresh whole pieces rfl rfl (by decide +kernel) (by decide +kernel)
      (by decide +kernel)⟩
  intro blocks blocks' h
  rw [readTogether, readTogether, h]

end Loader
end MarkupSearch
