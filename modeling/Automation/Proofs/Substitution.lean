import Automation.Proofs.Trimming
import Automation.Template
import Mathlib.Data.List.Infix
import Mathlib.Data.Nat.Find

/-
  What takes the place of the placeholders of a text.

  A placeholder is a path without braces between two opening and two
  closing ones.  A text has just one way to be cut into literal parts and
  placeholders: the next part is always the one up to the leftmost
  placeholder of what is left.  Filling a template keeps the literal parts
  and writes the value of each path in place of its placeholder, and what
  is written is not looked at again.

  Key definitions include:
    * `Template.Occurs` and `Template.OccursFirst`, placeholders in a text
    * `Template.Cut`, the parts of a text
    * `Template.Reading`, how a pattern divides a placeholder
    * `Document.HoldsText`, the texts inside a document
    * `Template.Substitutes`, what filling a template comes to

  Key theorems include:
    * `Template.segments_of_cut`, segments are the parts of the cut
    * `Template.exists_cut` and `Template.Cut.unique`
    * `Template.Reading.isFirst_iff`, the path that a pattern captures
    * `Template.substitutes`
-/

namespace Automation

------------------------------------------------------------
-- Parts Of A Text
------------------------------------------------------------

theorem Text.occurs_iff
    {part cs : List Char} :
    Text.occurs part cs = true ↔ part <:+: cs := by
  induction cs with
  | nil => simp [Text.occurs]
  | cons c rest ih =>
      rw [Text.occurs, Bool.or_eq_true, ih, List.infix_cons_iff,
        List.isPrefixOf_iff_prefix]

/- A path means the same without the white space around it. -/
theorem Context.resolve_trim
    (context : Context)
    (path : String) :
    context.resolve (Text.trim path) = context.resolve path := by
  unfold Context.resolve
  rw [Text.trim_trim]

namespace Template

------------------------------------------------------------
-- Placeholders In A Text
------------------------------------------------------------

/- A placeholder with its braces. -/
def braced
    (inner : List Char) :
    List Char :=
  '\x7b' :: '\x7b' :: inner ++ ['\x7d', '\x7d']

/- A placeholder in a text, with what stands before and after it. -/
structure Occurs
    (cs before inner after : List Char) : Prop where
  split : cs = before ++ (braced inner ++ after)
  plain : ∀ c ∈ inner, isBrace c = false

/- The placeholder that no other one starts before. -/
structure OccursFirst
    (cs before inner after : List Char) : Prop
    extends Occurs cs before inner after where
  first :
    ∀ {others inside rest : List Char},
      Occurs cs others inside rest →
        before.length ≤ others.length

variable {cs before inner after : List Char}

theorem braced_append
    (inner after : List Char) :
    braced inner ++ after =
      '\x7b' :: '\x7b' :: (inner ++ '\x7d' :: '\x7d' :: after) := by
  simp [braced]

theorem length_braced
    (inner : List Char) :
    (braced inner).length = inner.length + 4 := by
  simp [braced]

theorem Occurs.cons
    (hOccurs : Occurs cs before inner after)
    (c : Char) :
    Occurs (c :: cs) (c :: before) inner after where
  split := by rw [hOccurs.split, List.cons_append]
  plain := hOccurs.plain

theorem Occurs.length_lt
    (hOccurs : Occurs cs before inner after) :
    after.length < cs.length := by
  rw [hOccurs.split, List.length_append, List.length_append,
    length_braced]
  omega

/- The first placeholder of a text that has one. -/
theorem exists_occursFirst
    (hOccurs : Occurs cs before inner after) :
    ∃ before inner after, OccursFirst cs before inner after := by
  classical
  have hSome :
      ∃ n before inner after,
        Occurs cs before inner after ∧ before.length = n :=
    ⟨_, before, inner, after, hOccurs, rfl⟩
  rcases Nat.find_spec hSome with
    ⟨head, path, rest, hFound, hLength⟩
  refine ⟨head, path, rest, hFound, ?_⟩
  intro others inside tail hOther
  rw [hLength]
  exact Nat.find_min' hSome ⟨others, inside, tail, hOther, rfl⟩

------------------------------------------------------------
-- Reading A Placeholder
------------------------------------------------------------

/- The path of a placeholder ends at the first brace. -/
theorem takeWhile_inner
    (hPlain : ∀ c ∈ inner, isBrace c = false)
    (after : List Char) :
    (inner ++ '\x7d' :: '\x7d' :: after).takeWhile
        (fun c => !isBrace c) =
      inner := by
  rw [List.takeWhile_append_of_pos (by simpa using hPlain),
    List.takeWhile_cons_of_neg (by decide), List.append_nil]

theorem dropWhile_inner
    (hPlain : ∀ c ∈ inner, isBrace c = false)
    (after : List Char) :
    (inner ++ '\x7d' :: '\x7d' :: after).dropWhile
        (fun c => !isBrace c) =
      '\x7d' :: '\x7d' :: after := by
  rw [List.dropWhile_append_of_pos (by simpa using hPlain),
    List.dropWhile_cons_of_neg (by decide)]

/- A placeholder is read just where one begins. -/
theorem inner?_eq_some_iff :
    inner? cs = some inner ↔ ∃ after, Occurs cs [] inner after := by
  constructor
  · intro hInner
    unfold inner? at hInner
    split at hInner
    · rename_i rest
      dsimp only at hInner
      split at hInner
      · rename_i hClosed
        rcases List.isPrefixOf_iff_prefix.mp hClosed with
          ⟨after, hAfter⟩
        cases hInner
        refine ⟨after, ?_, ?_⟩
        · rw [List.nil_append, braced_append]
          congr 2
          calc
            rest
                = rest.takeWhile (fun c => !isBrace c) ++
                    rest.dropWhile (fun c => !isBrace c) :=
              List.takeWhile_append_dropWhile.symm
            _ = rest.takeWhile (fun c => !isBrace c) ++
                  '\x7d' :: '\x7d' :: after := by
              rw [← hAfter]
              rfl
        · intro c hMem
          simpa using List.mem_takeWhile_imp hMem
      · cases hInner
    · cases hInner
  · rintro ⟨after, hSplit, hPlain⟩
    rw [hSplit, List.nil_append, braced_append]
    simp only [inner?, takeWhile_inner hPlain,
      dropWhile_inner hPlain]
    rfl

/- A text is divided in one way by its first placeholder. -/
theorem OccursFirst.unique
    {others inside rest : List Char}
    (hFirst : OccursFirst cs before inner after)
    (hOther : OccursFirst cs others inside rest) :
    before = others ∧ inner = inside ∧ after = rest := by
  have hLength : before.length = others.length :=
    Nat.le_antisymm (hFirst.first hOther.toOccurs)
      (hOther.first hFirst.toOccurs)
  have hSame :
      before ++ (braced inner ++ after) =
        others ++ (braced inside ++ rest) :=
    hFirst.split.symm.trans hOther.split
  rcases List.append_inj hSame hLength with ⟨hBefore, hTail⟩
  have hInner : inner = inside := by
    have hRead :
        inner? (braced inner ++ after) = some inner :=
      inner?_eq_some_iff.mpr ⟨after, rfl, hFirst.plain⟩
    have hReadOther :
        inner? (braced inside ++ rest) = some inside :=
      inner?_eq_some_iff.mpr ⟨rest, rfl, hOther.plain⟩
    rw [hTail, hReadOther] at hRead
    exact (Option.some.inj hRead).symm
  rw [hInner] at hTail
  exact ⟨hBefore, hInner, List.append_cancel_left hTail⟩

------------------------------------------------------------
-- Cutting A Text
------------------------------------------------------------

inductive Piece where
  | literal (cs : List Char)
  | placeholder (inner : List Char)
deriving DecidableEq

/-
  The pieces of a text: up to its first placeholder, the placeholder, and
  the pieces of what follows it.
-/
inductive Cut : List Char → List Piece → Prop
  | last
      {cs : List Char}
      (hNone :
        ∀ before inner after, ¬ Occurs cs before inner after) :
      Cut cs [.literal cs]
  | next
      {cs before inner after : List Char}
      {pieces : List Piece}
      (hFirst : OccursFirst cs before inner after)
      (hRest : Cut after pieces) :
      Cut cs (.literal before :: .placeholder inner :: pieces)

/- The part of the text that a piece is. -/
def Piece.source : Piece → List Char
  | .literal cs => cs
  | .placeholder inner => braced inner

/-
  What is written for a piece: itself, unless it is a placeholder whose
  path resolves.
-/
def Piece.written
    (context : Context) :
    Piece → List Char
  | .literal cs => cs
  | .placeholder inner =>
      match context.resolve (Text.trim (String.ofList inner)) with
      | some value => value.plain.toList
      | none => braced inner

/- A piece as it is found from left to right. -/
def Piece.segments : Piece → List Segment
  | .literal cs => cs.map .char
  | .placeholder inner => [.placeholder inner]

variable {pieces : List Piece}

/- Every text can be cut. -/
theorem exists_cut
    (cs : List Char) :
    ∃ pieces, Cut cs pieces := by
  by_cases hSome :
      ∃ before inner after, Occurs cs before inner after
  · rcases hSome with ⟨_, _, _, hOccurs⟩
    rcases exists_occursFirst hOccurs with
      ⟨before, inner, after, hFirst⟩
    have hShorter := hFirst.length_lt
    rcases exists_cut after with ⟨pieces, hRest⟩
    exact ⟨_, .next hFirst hRest⟩
  · refine ⟨_, .last ?_⟩
    intro before inner after hOccurs
    exact hSome ⟨before, inner, after, hOccurs⟩
termination_by cs.length

/- And there is one way to cut it. -/
theorem Cut.unique
    {others : List Piece}
    (hCut : Cut cs pieces)
    (hOther : Cut cs others) :
    others = pieces := by
  induction hCut generalizing others with
  | last hNone =>
      cases hOther with
      | last => rfl
      | next hFirst _ => exact absurd hFirst.toOccurs (hNone _ _ _)
  | next hFirst _ ih =>
      cases hOther with
      | last hNone => exact absurd hFirst.toOccurs (hNone _ _ _)
      | next hSecond hRest =>
          rcases hFirst.unique hSecond with ⟨rfl, rfl, rfl⟩
          rw [ih hRest]

/- Nothing of a text is lost. -/
theorem Cut.source_eq
    (hCut : Cut cs pieces) :
    pieces.flatMap Piece.source = cs := by
  induction hCut with
  | last => simp [Piece.source]
  | next hFirst _ ih =>
      simp only [List.flatMap_cons, Piece.source, ih]
      exact hFirst.split.symm

/- The placeholders of a cut are those of the text. -/
theorem Cut.exists_occurs
    (hCut : Cut cs pieces)
    (hMem : Piece.placeholder inner ∈ pieces) :
    ∃ before after, Occurs cs before inner after := by
  induction hCut with
  | last => simp at hMem
  | @next cs head path tail _ hFirst _ ih =>
      simp only [List.mem_cons, reduceCtorEq, false_or,
        Piece.placeholder.injEq] at hMem
      rcases hMem with rfl | hLater
      · exact ⟨_, _, hFirst.toOccurs⟩
      · rcases ih hLater with ⟨before, after, hOccurs⟩
        refine ⟨head ++ braced path ++ before, after, ?_, ?_⟩
        · rw [hFirst.split, hOccurs.split]
          simp only [List.append_assoc]
        · exact hOccurs.plain

------------------------------------------------------------
-- Segments
------------------------------------------------------------

theorem segmentsFrom_drop
    (skip : Nat)
    (cs : List Char) :
    segmentsFrom skip cs = segmentsFrom 0 (cs.drop skip) := by
  induction cs generalizing skip with
  | nil => cases skip <;> rfl
  | cons c rest ih =>
      cases skip with
      | zero => rfl
      | succ skip => exact ih skip

theorem segmentsFrom_of_none
    {c : Char}
    (hNone : inner? (c :: cs) = none) :
    segmentsFrom 0 (c :: cs) = .char c :: segmentsFrom 0 cs := by
  rw [segmentsFrom, hNone]

/- After a placeholder, segments are found in what follows it. -/
theorem segmentsFrom_placeholder
    (hPlain : ∀ c ∈ inner, isBrace c = false)
    (after : List Char) :
    segmentsFrom 0 (braced inner ++ after) =
      .placeholder inner :: segmentsFrom 0 after := by
  have hInner : inner? (braced inner ++ after) = some inner :=
    inner?_eq_some_iff.mpr ⟨after, rfl, hPlain⟩
  have hSkipped :
      ('\x7b' :: inner ++ ['\x7d', '\x7d'] ++ after).drop
          (inner.length + 3) =
        after :=
    List.drop_left' (by simp)
  have hSplit :
      braced inner ++ after =
        '\x7b' ::
          ('\x7b' :: inner ++ ['\x7d', '\x7d'] ++ after) := rfl
  rw [hSplit] at hInner ⊢
  rw [segmentsFrom, hInner]
  dsimp only
  rw [segmentsFrom_drop, hSkipped]

theorem segmentsFrom_of_literal
    (hNone :
      ∀ before inner after, ¬ Occurs cs before inner after) :
    segmentsFrom 0 cs = cs.map .char := by
  induction cs with
  | nil => rfl
  | cons c rest ih =>
      have hHere : inner? (c :: rest) = none := by
        rw [Option.eq_none_iff_forall_ne_some]
        intro inner hInner
        rcases inner?_eq_some_iff.mp hInner with ⟨after, hOccurs⟩
        exact hNone [] inner after hOccurs
      have hLater :
          ∀ before inner after,
            ¬ Occurs rest before inner after := by
        intro before inner after hOccurs
        exact hNone _ inner after (hOccurs.cons c)
      rw [segmentsFrom_of_none hHere, ih hLater, List.map_cons]

/- Up to the first placeholder, segments are characters. -/
theorem segmentsFrom_of_first
    (hFirst : OccursFirst cs before inner after) :
    segmentsFrom 0 cs =
      before.map .char ++
        .placeholder inner :: segmentsFrom 0 after := by
  induction before generalizing cs with
  | nil =>
      rw [hFirst.split, List.nil_append,
        segmentsFrom_placeholder hFirst.plain]
      rfl
  | cons c before ih =>
      have hSplit :
          cs = c :: (before ++ (braced inner ++ after)) :=
        hFirst.split
      have hHere : inner? cs = none := by
        rw [Option.eq_none_iff_forall_ne_some]
        intro inside hInner
        rcases inner?_eq_some_iff.mp hInner with ⟨rest, hOccurs⟩
        exact absurd (hFirst.first hOccurs) (by simp)
      have hRest :
          OccursFirst (before ++ (braced inner ++ after)) before
            inner after := by
        refine ⟨⟨rfl, hFirst.plain⟩, ?_⟩
        intro others inside rest hOther
        have hLater := hOther.cons c
        rw [← hSplit] at hLater
        exact Nat.le_of_succ_le_succ (hFirst.first hLater)
      rw [hSplit] at hHere ⊢
      rw [segmentsFrom_of_none hHere, ih hRest, List.map_cons,
        List.cons_append]

/- What is found from left to right are the pieces of the cut. -/
theorem segments_of_cut
    (hCut : Cut cs pieces) :
    segmentsFrom 0 cs = pieces.flatMap Piece.segments := by
  induction hCut with
  | last hNone =>
      simp [segmentsFrom_of_literal hNone, Piece.segments]
  | next hFirst _ ih =>
      rw [segmentsFrom_of_first hFirst, ih]
      simp [Piece.segments]

theorem fill_segments
    (context : Context)
    (piece : Piece) :
    piece.segments.flatMap (·.fill context) =
      piece.written context := by
  cases piece with
  | literal cs =>
      simp only [Piece.segments, Piece.written, List.flatMap_map,
        Segment.fill, List.flatMap_singleton']
  | placeholder inner =>
      simp only [Piece.segments, List.flatMap_singleton,
        Segment.fill, Piece.written, Context.resolve_trim]
      cases context.resolve (String.ofList inner) <;> rfl

theorem replace_of_cut
    {s : String}
    (hCut : Cut s.toList pieces)
    (context : Context) :
    replace context s =
      String.ofList (pieces.flatMap (·.written context)) := by
  unfold replace segments
  rw [segments_of_cut hCut, List.flatMap_assoc]
  simp only [fill_segments]

------------------------------------------------------------
-- Texts Without Placeholders
------------------------------------------------------------

theorem isTemplate_iff
    {s : String} :
    isTemplate s = true ↔
      ∃ before inner after, Occurs s.toList before inner after := by
  rcases exists_cut s.toList with ⟨pieces, hCut⟩
  unfold isTemplate segments
  rw [segments_of_cut hCut]
  cases hCut with
  | last hNone => simp [Piece.segments, hNone]
  | next hFirst _ =>
      constructor
      · intro _
        exact ⟨_, _, _, hFirst.toOccurs⟩
      · intro _
        simp [Piece.segments]

theorem replace_of_literal
    {s : String}
    (hNone :
      ∀ before inner after,
        ¬ Occurs s.toList before inner after)
    (context : Context) :
    replace context s = s := by
  rw [replace_of_cut (.last hNone)]
  simp [Piece.written]

/- A text that is left alone has no placeholder. -/
theorem not_occurs_of_unbraced
    (hBraces : Text.occurs ['\x7b', '\x7b'] cs = false)
    (before inner after : List Char) :
    ¬ Occurs cs before inner after := by
  intro hOccurs
  have hInfix : ['\x7b', '\x7b'] <:+: cs := by
    refine ⟨before, inner ++ '\x7d' :: '\x7d' :: after, ?_⟩
    rw [hOccurs.split, braced_append]
    simp
  rw [Text.occurs_iff.mpr hInfix] at hBraces
  cases hBraces

/- So it makes no difference that it is left alone. -/
theorem fill_eq_replace
    (context : Context)
    (s : String) :
    fill context s = replace context s := by
  unfold fill
  split
  · rfl
  · rename_i hBraces
    rw [Bool.not_eq_true] at hBraces
    exact
      (replace_of_literal (not_occurs_of_unbraced hBraces)
        context).symm

/- A text whose placeholders do not resolve stays as it is. -/
theorem fill_of_unresolved
    {context : Context}
    {s : String}
    (hNone :
      ∀ before inner after,
        Occurs s.toList before inner after →
          context.resolve (Text.trim (String.ofList inner)) =
            none) :
    fill context s = s := by
  rcases exists_cut s.toList with ⟨pieces, hCut⟩
  have hWritten :
      ∀ piece ∈ pieces,
        piece.written context = piece.source := by
    intro piece hMem
    cases piece with
    | literal cs => rfl
    | placeholder inner =>
        rcases hCut.exists_occurs hMem with
          ⟨before, after, hOccurs⟩
        simp only [Piece.written, Piece.source,
          hNone before inner after hOccurs]
  rw [fill_eq_replace, replace_of_cut hCut,
    List.flatMap_congr hWritten, hCut.source_eq,
    String.ofList_toList]

------------------------------------------------------------
-- The Path Of A Placeholder
------------------------------------------------------------

/-
  How a pattern can divide what is between the braces: white space, the
  path, and white space again.
-/
structure Reading
    (inner lead path tail : List Char) : Prop where
  split : inner = lead ++ (path ++ tail)
  lead_blank : ∀ c ∈ lead, Text.isBlank c = true
  tail_blank : ∀ c ∈ tail, Text.isBlank c = true

/-
  The reading that is tried first: the first white space is as long as can
  be, and then the path is as short as can be.
-/
structure Reading.IsFirst
    (inner lead path tail : List Char) : Prop
    extends Reading inner lead path tail where
  first :
    ∀ {start middle rest : List Char},
      Reading inner start middle rest →
        start.length < lead.length ∨
          start.length = lead.length ∧
            path.length ≤ middle.length

namespace Reading

variable {lead path tail : List Char}

theorem trimmed
    (inner : List Char) :
    Reading inner (Text.blanksBefore inner)
      (Text.trimChars inner) (Text.blanksAfter inner) where
  split := (Text.blanks_trimChars inner).symm
  lead_blank _ hMem := Text.isBlank_of_mem_blanksBefore hMem
  tail_blank _ hMem := Text.isBlank_of_mem_blanksAfter hMem

theorem length_lead_le
    (hReading : Reading inner lead path tail) :
    lead.length ≤ (Text.blanksBefore inner).length := by
  rw [Text.blanksBefore, hReading.split,
    List.takeWhile_append_of_pos hReading.lead_blank,
    List.length_append]
  exact Nat.le_add_right _ _

/- With the longest first white space, no path is shorter. -/
theorem length_trimmed_le
    (hReading : Reading inner lead path tail)
    (hLead : lead.length = (Text.blanksBefore inner).length) :
    lead = Text.blanksBefore inner ∧
      path ++ tail =
        Text.trimChars inner ++ Text.blanksAfter inner ∧
      (Text.trimChars inner).length ≤ path.length := by
  have hSame :
      lead ++ (path ++ tail) =
        Text.blanksBefore inner ++
          (Text.trimChars inner ++ Text.blanksAfter inner) :=
    hReading.split.symm.trans (trimmed inner).split
  rcases List.append_inj hSame hLead with ⟨hBefore, hRest⟩
  refine ⟨hBefore, hRest, ?_⟩
  have hDrop : inner.dropWhile Text.isBlank = path ++ tail := by
    rw [hRest]
    exact List.rdropWhile_append_rtakeWhile.symm
  have hTail :
      tail.length ≤ (Text.blanksAfter inner).length := by
    rw [Text.blanksAfter, hDrop, List.rtakeWhile,
      List.length_reverse, List.reverse_append,
      List.takeWhile_append_of_pos (by
        simpa using hReading.tail_blank),
      List.length_append, List.length_reverse]
    exact Nat.le_add_right _ _
  have hLength := congrArg List.length hRest
  rw [List.length_append, List.length_append] at hLength
  omega

/- What a pattern captures is the path without white space around it. -/
theorem isFirst_iff :
    IsFirst inner lead path tail ↔
      lead = Text.blanksBefore inner ∧
        path = Text.trimChars inner ∧
          tail = Text.blanksAfter inner := by
  constructor
  · intro hFirst
    have hLead : lead.length = (Text.blanksBefore inner).length := by
      have hLe := hFirst.length_lead_le
      rcases hFirst.first (trimmed inner) with hLess | ⟨hSame, _⟩
      · omega
      · exact hSame.symm
    rcases hFirst.length_trimmed_le hLead with
      ⟨hBefore, hRest, hLong⟩
    have hPath : path.length = (Text.trimChars inner).length := by
      rcases hFirst.first (trimmed inner) with hLess | ⟨_, hShort⟩
      · omega
      · omega
    rcases List.append_inj hRest hPath with ⟨hMiddle, hAfter⟩
    exact ⟨hBefore, hMiddle, hAfter⟩
  · rintro ⟨rfl, rfl, rfl⟩
    refine ⟨trimmed inner, ?_⟩
    intro start middle rest hReading
    rcases Nat.lt_or_eq_of_le hReading.length_lead_le with
      hLess | hSame
    · exact Or.inl hLess
    · exact Or.inr ⟨hSame, (hReading.length_trimmed_le hSame).2.2⟩

end Reading

end Template

------------------------------------------------------------
-- Documents
------------------------------------------------------------

namespace Document

/- The texts of a document, those of its parts included. -/
inductive HoldsText : Document → String → Prop
  | here
      {s : String} :
      HoldsText (.string s) s
  | item
      {items : List Document}
      {x : Document}
      {s : String}
      (hMem : x ∈ items)
      (hInside : HoldsText x s) :
      HoldsText (.array items) s
  | entry
      {entries : List (String × Document)}
      {key : String}
      {x : Document}
      {s : String}
      (hMem : (key, x) ∈ entries)
      (hInside : HoldsText x s) :
      HoldsText (.object entries) s

variable {context : Context}

mutual

/- A document stays as it is when all of its texts do. -/
theorem fill_eq_self :
    (d : Document) →
      (∀ s, d.HoldsText s → Template.fill context s = s) →
        d.fill context = d
  | .null, _ => rfl
  | .bool _, _ => rfl
  | .number _, _ => rfl
  | .string s, hTexts => by
      rw [fill, hTexts s .here]
  | .array items, hTexts => by
      rw [fill, fillItems_eq_self items fun x hMem s hInside =>
        hTexts s (.item hMem hInside)]
  | .object entries, hTexts => by
      rw [fill, fillEntries_eq_self entries
        fun key x hMem s hInside => hTexts s (.entry hMem hInside)]

theorem fillItems_eq_self :
    (items : List Document) →
      (∀ x ∈ items,
        ∀ s, x.HoldsText s → Template.fill context s = s) →
        fillItems context items = items
  | [], _ => rfl
  | x :: xs, hTexts => by
      rw [fillItems,
        fill_eq_self x (hTexts x List.mem_cons_self),
        fillItems_eq_self xs fun y hMem =>
          hTexts y (List.mem_cons_of_mem _ hMem)]

theorem fillEntries_eq_self :
    (entries : List (String × Document)) →
      (∀ key x,
        (key, x) ∈ entries →
          ∀ s, x.HoldsText s → Template.fill context s = s) →
        fillEntries context entries = entries
  | [], _ => rfl
  | (key, x) :: xs, hTexts => by
      rw [fillEntries,
        fill_eq_self x (hTexts key x List.mem_cons_self),
        fillEntries_eq_self xs fun other y hMem =>
          hTexts other y (List.mem_cons_of_mem _ hMem)]

end

end Document

------------------------------------------------------------
-- Substitution
------------------------------------------------------------

namespace Template

/- What filling templates comes to in a context. -/
structure Substitutes
    (context : Context) : Prop where
  /-
    A text has one cut, which its parts make up, and is filled with what
    is written for these parts.
  -/
  filled :
    ∀ s : String,
      ∃ pieces,
        Cut s.toList pieces ∧
          (∀ others, Cut s.toList others → others = pieces) ∧
          pieces.flatMap Piece.source = s.toList ∧
          fill context s =
            String.ofList (pieces.flatMap (·.written context))
  /- The path that is looked up is the one that a pattern captures. -/
  captured :
    ∀ inner path : List Char,
      (∃ lead tail, Reading.IsFirst inner lead path tail) ↔
        path = (Text.trim (String.ofList inner)).toList
  /- To leave a text without two opening braces alone is to cut it. -/
  leftAlone :
    ∀ s : String,
      Text.occurs ['\x7b', '\x7b'] s.toList = false →
        Cut s.toList [.literal s.toList] ∧ replace context s = s
  template_iff :
    ∀ s : String,
      isTemplate s = true ↔
        ∃ before inner after, Occurs s.toList before inner after
  untouched :
    ∀ s : String, isTemplate s = false → fill context s = s
  /- A document in which no placeholder resolves stays as it is. -/
  unresolved :
    ∀ d : Document,
      (∀ s,
        d.HoldsText s →
          ∀ before inner after,
            Occurs s.toList before inner after →
              context.resolve (Text.trim (String.ofList inner)) =
                none) →
        d.fill context = d

theorem substitutes
    (context : Context) :
    Substitutes context where
  filled s := by
    rcases exists_cut s.toList with ⟨pieces, hCut⟩
    refine ⟨pieces, hCut, fun _ hOther => hCut.unique hOther,
      hCut.source_eq, ?_⟩
    rw [fill_eq_replace, replace_of_cut hCut]
  captured inner path := by
    simp only [Reading.isFirst_iff, Text.trim,
      String.toList_ofList]
    constructor
    · rintro ⟨_, _, _, hPath, _⟩
      exact hPath
    · intro hPath
      exact ⟨_, _, rfl, hPath, rfl⟩
  leftAlone s hBraces := by
    have hNone := not_occurs_of_unbraced hBraces
    exact ⟨.last hNone, replace_of_literal hNone context⟩
  template_iff s := isTemplate_iff
  untouched s hPlain := by
    apply fill_of_unresolved
    intro before inner after hOccurs
    have hTemplate := isTemplate_iff.mpr ⟨_, _, _, hOccurs⟩
    rw [hPlain] at hTemplate
    cases hTemplate
  unresolved d hNone :=
    d.fill_eq_self fun s hText => fill_of_unresolved (hNone s hText)

end Template

end Automation
