import Automation.Proofs.Hooks
import Automation.Proofs.Spellings

/-
  Required fields, and the paths that lead to them in a run.

  The gate looks for a required field by following keys into objects.  A
  run finds the same value under the path that begins with the input, and
  it finds more: a path of a run also leads by position into arrays.  So
  what the gate lets through can be relied on, and what it turns away
  without need are fields inside an array.

  Key definitions include:
    * `Document.EntersArray`, keys that lead by way of an array
    * `Rule.RequiresOnly`, a rule that asks for one field

  Key theorems include:
    * `Document.follow_eq_some_iff_descend`, the two ways into a document
    * `Context.resolve_input`, a path that begins with the input
    * `Rule.authorize_eq_ok_iff_resolves`, the gate and the run
-/

namespace Automation

------------------------------------------------------------
-- Texts Without White Space At Their Ends
------------------------------------------------------------

namespace Text

variable {cs : List Char}

theorem trimEnd_sublist
    (cs : List Char) :
    (trimEnd cs).Sublist cs := by
  unfold trimEnd
  rw [← List.reverse_sublist, List.reverse_reverse]
  exact List.dropWhile_sublist _

theorem trimEnd_of_trimChars
    (hTrimmed : trimChars cs = cs) :
    trimEnd cs = cs := by
  have hBack : cs.Sublist (cs.dropWhile isBlank) := by
    have hSublist := trimEnd_sublist (cs.dropWhile isBlank)
    unfold trimChars at hTrimmed
    rwa [hTrimmed] at hSublist
  have hWhole : cs.dropWhile isBlank = cs :=
    (List.dropWhile_sublist _).eq_of_length_le hBack.length_le
  unfold trimChars at hTrimmed
  rwa [hWhole] at hTrimmed

/- White space at the ends of a text is that at the ends of its parts. -/
theorem trimChars_append
    {first last : Char}
    {part rest : List Char}
    (hFirst : isBlank first = false)
    (hLast : isBlank last = false)
    (hTrimmed : trimChars rest = rest) :
    trimChars (first :: part ++ last :: rest) =
      first :: part ++ last :: rest := by
  have hEnd : rest.reverse.dropWhile isBlank = rest.reverse := by
    have hRest := trimEnd_of_trimChars hTrimmed
    unfold trimEnd at hRest
    exact List.reverse_eq_iff.mp hRest
  unfold trimChars trimEnd
  rw [List.cons_append, List.dropWhile_cons_of_neg (by simp [hFirst])]
  rw [List.reverse_eq_iff]
  simp [List.dropWhile_append, hEnd, hLast]

end Text

------------------------------------------------------------
-- Ways Into A Document
------------------------------------------------------------

namespace Document

/- Segments that lead into an array at some point on the way. -/
inductive EntersArray : Document → List String → Prop
  | here
      {items : List Document}
      {segment : String}
      {rest : List String} :
      EntersArray (.array items) (segment :: rest)
  | later
      {d inner : Document}
      {segment : String}
      {rest : List String}
      (hStep : d.step? segment = some inner)
      (hRest : EntersArray inner rest) :
      EntersArray d (segment :: rest)

variable {d value : Document}

theorem step?_of_entry?
    {key : String}
    (hEntry : d.entry? key = some value) :
    d.step? key = some value := by
  cases d with
  | object entries => exact hEntry
  | _ => cases hEntry

/- A step that is not to a key is one into an array. -/
theorem entry?_of_step?
    {segment : String}
    {rest : List String}
    (hStep : d.step? segment = some value)
    (hArray : ¬ d.EntersArray (segment :: rest)) :
    d.entry? segment = some value := by
  cases d with
  | object entries => exact hStep
  | array items => exact absurd .here hArray
  | _ => cases hStep

/- To follow keys is to follow a path that does not enter an array. -/
theorem follow_eq_some_iff_descend
    {keys : List String} :
    d.follow keys = some value ↔
      d.descend keys = some value ∧ ¬ d.EntersArray keys := by
  constructor
  · intro hFollow
    induction keys generalizing d with
    | nil =>
        refine ⟨hFollow, ?_⟩
        rintro ⟨⟩
    | cons key keys ih =>
        rw [follow] at hFollow
        split at hFollow
        · rename_i inner hEntry
          rcases ih hFollow with ⟨hDescend, hInner⟩
          have hStep := step?_of_entry? hEntry
          refine ⟨?_, ?_⟩
          · rw [descend, hStep]
            exact hDescend
          · intro hEnters
            cases hEnters with
            | here => cases hEntry
            | later hOther hRest =>
                rw [hStep] at hOther
                cases hOther
                exact hInner hRest
        · cases hFollow
  · rintro ⟨hDescend, hArray⟩
    induction keys generalizing d with
    | nil => exact hDescend
    | cons key keys ih =>
        rw [descend] at hDescend
        split at hDescend
        · rename_i inner hStep
          have hEntry := entry?_of_step? hStep hArray
          rw [follow, hEntry]
          exact ih hDescend fun hRest =>
            hArray (.later hStep hRest)
        · cases hDescend

theorem hasField_iff_descend
    {path : String} :
    d.hasField path = true ↔
      (∃ value,
          d.descend (Text.splitOn '.' path) = some value ∧
            value ≠ .null) ∧
        ¬ d.EntersArray (Text.splitOn '.' path) := by
  have hFollow :
      d.hasField path = true ↔
        ∃ value,
          d.follow (Text.splitOn '.' path) = some value ∧
            value ≠ .null := by
    unfold hasField
    cases d.follow (Text.splitOn '.' path) <;>
      simp [← isNull_iff]
  rw [hFollow]
  simp only [follow_eq_some_iff_descend]
  constructor
  · rintro ⟨value, ⟨hDescend, hArray⟩, hValue⟩
    exact ⟨⟨value, hDescend, hValue⟩, hArray⟩
  · rintro ⟨⟨value, hDescend, hValue⟩, hArray⟩
    exact ⟨value, ⟨hDescend, hArray⟩, hValue⟩

end Document

------------------------------------------------------------
-- Paths Of A Run
------------------------------------------------------------

/- Behind the name of the input, a path leads into the payload. -/
theorem Context.resolve_input
    {path : String}
    (hPath : Text.trim path = path)
    (rule : Rule)
    (payload : Document)
    (trigger : TriggerKind)
    (startedAt : Timestamp) :
    (forRun rule payload trigger startedAt).resolve
        ("input." ++ path) =
      payload.descend (Text.splitOn '.' path) := by
  have hChars :
      ("input." ++ path).toList =
        ['i', 'n', 'p', 'u', 't'] ++ '.' :: path.toList := by
    simp
  have hTrim : Text.trim ("input." ++ path) = "input." ++ path := by
    have hList : Text.trimChars path.toList = path.toList := by
      rw [← String.toList_inj] at hPath
      simpa [Text.trim] using hPath
    rw [Text.trim, hChars, Text.trimChars_append rfl rfl hList,
      ← hChars, String.ofList_toList]
  have hSplit :
      Text.splitOn '.' ("input." ++ path) =
        "input" :: Text.splitOn '.' path := by
    unfold Text.splitOn
    rw [hChars, Text.splitChars_append (by decide)]
    rfl
  have hFind :
      Table.find? (forRun rule payload trigger startedAt).fixed
          "input" =
        some payload := by
    simp [forRun, ofFixed, Table.ofList, Table.find?_insert]
  have hNotEmpty : ("input." ++ path).isEmpty = false := by
    simp
  unfold resolve
  simp only [hTrim, hNotEmpty, hSplit]
  simp [lookup, hFind]

------------------------------------------------------------
-- The Gate And The Run
------------------------------------------------------------

namespace Rule

/- A rule that takes calls with a token, and requires just one field. -/
structure RequiresOnly
    (rule : Rule)
    (token name : String) : Prop where
  hooked : rule.trigger.kind = .webhook
  accepts : rule.trigger.Accepts token
  requires :
    ∃ schema,
      rule.trigger.schema? = some schema ∧
        schema.requiredFields = [name]

variable {rule : Rule}
variable {token name : String}

/- With the right token, the one field decides. -/
theorem RequiresOnly.authorize_eq
    (hRule : rule.RequiresOnly token name)
    (payload : Document) :
    rule.authorize token payload =
      if payload.hasField name then .ok ()
      else .error (.missingField name) := by
  rcases hRule.requires with ⟨schema, hSchema, hFields⟩
  have hSecret := Trigger.accepts_iff.mp hRule.accepts
  cases hField : payload.hasField name <;>
    simp [authorize, hRule.hooked, hSecret, hSchema,
      InputSchema.missingField?, hFields, hField]

/-
  The gate lets a payload through just when the path of the field resolves
  to a value in the run, unless the path leads into an array.
-/
theorem authorize_eq_ok_iff_resolves
    (hRule : rule.RequiresOnly token name)
    (hName : Text.trim name = name)
    (payload : Document)
    (trigger : TriggerKind)
    (startedAt : Timestamp) :
    rule.authorize token payload = .ok () ↔
      (∃ value,
          (Context.forRun rule payload trigger
              startedAt).resolve ("input." ++ name) =
              some value ∧
            value ≠ .null) ∧
        ¬ payload.EntersArray (Text.splitOn '.' name) := by
  rw [hRule.authorize_eq, Context.resolve_input hName,
    ← Document.hasField_iff_descend]
  cases payload.hasField name <;> simp

/- A rule for calls that bring the first item of an order. -/
def itemRule : Rule :=
  { Rule.basic "item" "Item" .none with
    trigger :=
      ⟨.webhook, some "secret",
        some ⟨[⟨"order.items.0", none, true⟩]⟩⟩ }

/- An order with an item under the key `0`. -/
def keyedOrder : Document :=
  .object
    [("order",
      .object [("items", .object [("0", .integer 5)])])]

/- An order with an item in the first place of an array. -/
def listedOrder : Document :=
  .object
    [("order", .object [("items", .array [.integer 5])])]

theorem itemRule_requiresOnly :
    itemRule.RequiresOnly "secret" "order.items.0" where
  hooked := rfl
  accepts := ⟨"secret", rfl, by decide, rfl⟩
  requires := ⟨_, rfl, rfl⟩

theorem keyedOrder_resolves :
    itemRule.authorize "secret" keyedOrder = .ok () ∧
      (∃ value,
        (Context.forRun itemRule keyedOrder .webhook
            default).resolve ("input." ++ "order.items.0") =
            some value ∧
          value ≠ .null) ∧
      ¬ keyedOrder.EntersArray
        (Text.splitOn '.' "order.items.0") := by
  have hOpen :
      itemRule.authorize "secret" keyedOrder = .ok () := rfl
  refine ⟨hOpen, ?_⟩
  exact
    (authorize_eq_ok_iff_resolves itemRule_requiresOnly
      (by decide) keyedOrder .webhook default).mp hOpen

/- The item is turned away as missing, though the run would find it. -/
theorem listedOrder_turned_away :
    itemRule.RequiresOnly "secret" "order.items.0" ∧
      itemRule.authorize "secret" listedOrder =
        .error (.missingField "order.items.0") ∧
      (Context.forRun itemRule listedOrder .webhook
          default).resolve ("input." ++ "order.items.0") =
        some (.integer 5) :=
  ⟨itemRule_requiresOnly, rfl, rfl⟩

end Rule

end Automation
