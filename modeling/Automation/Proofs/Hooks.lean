import Automation.Proofs.Deadlines

/-
  Runs that webhook calls ask for.

  A webhook call is answered with a report, and makes calls of its own,
  just when the rule under the id admits it: the rule is active and takes
  webhook calls, the call presents its secret, and the payload has every
  field that it must bring.  Every other call is turned away at once.  A
  call without the secret is turned away in the same way whatever it
  brings and whatever the rule asks for.

  Key definitions include:
    * `Document.HasValue`, a dotted path that leads to a value
    * `Trigger.Accepts` and `Rule.Admits`, the calls that are let through
    * `Engine.answerHook`, what becomes of a webhook call
    * `Engine.GuardsHook`, what callers may rely on

  Key theorems include:
    * `Document.hasField_iff`, the paths that are found
    * `Rule.authorize_eq_ok_iff`, the gate
    * `Rule.authorize_of_not_accepts`, the gate without its secret
    * `Engine.guardsHook`, every engine guards its hooks
-/

namespace Automation

------------------------------------------------------------
-- Parts Of A Text
------------------------------------------------------------

namespace Text

variable {separator : Char}
variable {cs : List Char}

theorem splitChars_eq_splitOn :
    splitChars separator cs = cs.splitOn separator := by
  induction cs with
  | nil => simp [splitChars]
  | cons c cs ih =>
      rw [splitChars, List.splitOn_cons_eq_if_modifyHead, ih]
      simp only [beq_iff_eq]
      split
      · rfl
      · have hParts := List.splitOn_ne_nil separator cs
        cases hSplit : cs.splitOn separator with
        | nil => exact absurd hSplit hParts
        | cons part parts => rfl

theorem not_mem_of_mem_splitChars
    {part : List Char}
    (hPart : part ∈ splitChars separator cs) :
    separator ∉ part := by
  induction cs generalizing part with
  | nil =>
      rw [splitChars, List.mem_singleton] at hPart
      simp [hPart]
  | cons c cs ih =>
      rw [splitChars] at hPart
      split at hPart
      · rcases List.mem_cons.mp hPart with rfl | hRest
        · simp
        · exact ih hRest
      · rename_i hChar
        split at hPart
        · rw [List.mem_singleton] at hPart
          simp [hPart, Ne.symm hChar]
        · rename_i first rest hSplit
          rw [hSplit] at ih
          rcases List.mem_cons.mp hPart with rfl | hRest
          · have hFirst := ih List.mem_cons_self
            simp [Ne.symm hChar, hFirst]
          · exact ih (List.mem_cons_of_mem _ hRest)

end Text

------------------------------------------------------------
-- Paths Into A Document
------------------------------------------------------------

/- The keys that a path names, put together with dots. -/
structure IsPath
    (keys : List String)
    (path : String) : Prop where
  ne_nil : keys ≠ []
  plain : ∀ key ∈ keys, '.' ∉ key.toList
  joined : ".".intercalate keys = path

/- A path is split into the keys it names, and these are the only ones. -/
theorem isPath_iff
    {keys : List String}
    {path : String} :
    IsPath keys path ↔ Text.splitOn '.' path = keys := by
  unfold Text.splitOn
  constructor
  · intro hPath
    have hKeys :
        path.toList.splitOn '.' = keys.map String.toList := by
      rw [← hPath.joined, String.toList_intercalate]
      refine List.splitOn_intercalate '.' ?_ ?_
      · intro cs hChars
        rcases List.mem_map.mp hChars with ⟨key, hKey, rfl⟩
        exact hPath.plain key hKey
      · simpa using hPath.ne_nil
    rw [Text.splitChars_eq_splitOn, hKeys, List.map_map]
    simp [Function.comp_def]
  · rintro rfl
    refine ⟨?_, ?_, ?_⟩
    · rw [Text.splitChars_eq_splitOn]
      simp [List.splitOn_ne_nil]
    · intro key hKey
      rcases List.mem_map.mp hKey with ⟨part, hPart, rfl⟩
      rw [String.toList_ofList]
      exact Text.not_mem_of_mem_splitChars hPart
    · rw [← String.toList_inj, String.toList_intercalate,
        List.map_map, Text.splitChars_eq_splitOn]
      have hSame :
          String.toList ∘ String.ofList = id :=
        funext fun cs => String.toList_ofList
      rw [hSame, List.map_id]
      exact List.intercalate_splitOn '.'

namespace Document

/- A value that keys lead to, each into an object. -/
inductive HasAt : Document → List String → Document → Prop
  | here
      {value : Document} :
      HasAt value [] value
  | inside
      {entries : Entries}
      {key : String}
      {inner value : Document}
      {keys : List String}
      (hEntry : Table.find? entries key = some inner)
      (hInner : HasAt inner keys value) :
      HasAt (.object entries) (key :: keys) value

theorem follow_eq_some_iff
    {d value : Document}
    {keys : List String} :
    d.follow keys = some value ↔ d.HasAt keys value := by
  constructor
  · intro hFollow
    induction keys generalizing d with
    | nil =>
        cases hFollow
        exact .here
    | cons key keys ih =>
        rw [follow] at hFollow
        split at hFollow
        · rename_i inner hEntry
          cases d with
          | object entries => exact .inside hEntry (ih hFollow)
          | _ => cases hEntry
        · cases hFollow
  · intro hAt
    induction hAt with
    | here => rfl
    | inside hEntry hInner ih =>
        rw [follow, entry?, hEntry]
        exact ih

/- A dotted path that leads to a value other than null. -/
def HasValue
    (payload : Document)
    (path : String) : Prop :=
  ∃ keys value,
    IsPath keys path ∧ payload.HasAt keys value ∧ value ≠ .null

theorem isNull_iff
    {d : Document} :
    d.isNull = true ↔ d = .null := by
  cases d <;> simp [isNull]

theorem hasField_iff
    {payload : Document}
    {path : String} :
    payload.hasField path = true ↔ payload.HasValue path := by
  unfold hasField
  constructor
  · intro hField
    split at hField
    · rename_i value hFollow
      refine ⟨_, value, isPath_iff.mpr rfl,
        follow_eq_some_iff.mp hFollow, ?_⟩
      rintro rfl
      cases hField
    · cases hField
  · rintro ⟨keys, value, hPath, hAt, hValue⟩
    rw [isPath_iff.mp hPath, follow_eq_some_iff.mpr hAt]
    simpa [← isNull_iff] using hValue

end Document

------------------------------------------------------------
-- The Gate
------------------------------------------------------------

/- A secret that is not empty, presented byte for byte. -/
def Trigger.Accepts
    (trigger : Trigger)
    (token : String) : Prop :=
  ∃ secret,
    trigger.token? = some secret ∧
      secret ≠ "" ∧ secret.toUTF8 = token.toUTF8

/- A webhook call that a rule lets through. -/
structure Rule.Admits
    (rule : Rule)
    (token : String)
    (payload : Document) : Prop where
  active : rule.active = true
  hooked : rule.trigger.kind = .webhook
  accepts : rule.trigger.Accepts token
  complete :
    ∀ schema field,
      rule.trigger.schema? = some schema →
        field ∈ schema.fields →
          field.required = true → payload.HasValue field.name

theorem Trigger.accepts_iff
    {trigger : Trigger}
    {token : String} :
    trigger.Accepts token ↔ trigger.secret? = some token := by
  unfold Accepts secret?
  constructor
  · rintro ⟨secret, hToken, hSecret, hBytes⟩
    have hSame : secret = token := String.toByteArray_inj.mp hBytes
    subst hSame
    simp [hToken, hSecret]
  · intro hSecret
    rcases Option.filter_eq_some_iff.mp hSecret with
      ⟨hToken, hNotEmpty⟩
    refine ⟨token, hToken, ?_, rfl⟩
    simpa using hNotEmpty

/- No field is missing just when every required one has a value. -/
theorem InputSchema.missingField?_eq_none_iff
    {schema : InputSchema}
    {payload : Document} :
    schema.missingField? payload = none ↔
      ∀ field ∈ schema.fields,
        field.required = true → payload.HasValue field.name := by
  unfold missingField? requiredFields
  rw [List.find?_eq_none]
  constructor
  · intro hNone field hField hRequired
    have hName :
        field.name ∈
          (schema.fields.filter (·.required)).map (·.name) :=
      List.mem_map_of_mem
        (List.mem_filter.mpr ⟨hField, hRequired⟩)
    have hFound := hNone _ hName
    rw [← Document.hasField_iff]
    simpa using hFound
  · intro hComplete name hName
    rcases List.mem_map.mp hName with ⟨field, hField, rfl⟩
    rcases List.mem_filter.mp hField with ⟨hMem, hRequired⟩
    have hFound := hComplete field hMem hRequired
    rw [← Document.hasField_iff] at hFound
    simp [hFound]

namespace Rule

variable {rule : Rule}
variable {token : String}
variable {payload : Document}

/- The gate of an active rule is open to the calls that it admits. -/
theorem authorize_eq_ok_iff
    (hActive : rule.active = true) :
    rule.authorize token payload = .ok () ↔
      rule.Admits token payload := by
  unfold authorize
  constructor
  · intro hOpen
    split at hOpen
    · cases hOpen
    · rename_i hKind
      split at hOpen
      · cases hOpen
      · rename_i secret hSecret
        split at hOpen
        · cases hOpen
        · rename_i hToken
          split at hOpen
          · cases hOpen
          · rename_i hMissing
            simp only [ne_eq, Decidable.not_not] at hKind hToken
            subst hToken
            refine ⟨hActive, hKind,
              Trigger.accepts_iff.mpr hSecret, ?_⟩
            intro schema field hSchema
            rw [hSchema] at hMissing
            exact
              InputSchema.missingField?_eq_none_iff.mp hMissing
                field
  · intro hAdmits
    have hSecret := Trigger.accepts_iff.mp hAdmits.accepts
    have hMissing :
        rule.trigger.schema?.bind (·.missingField? payload) =
          none := by
      cases hSchema : rule.trigger.schema? with
      | none => rfl
      | some schema =>
          apply InputSchema.missingField?_eq_none_iff.mpr
          intro field
          exact hAdmits.complete schema field hSchema
    simp [hAdmits.hooked, hSecret, hMissing]

/- What a call without the secret is told. -/
def refusal
    (rule : Rule) :
    Rejection :=
  if rule.trigger.kind = .webhook ∧
      rule.trigger.secret?.isSome then
    .invalidToken rule.id
  else .webhookNotEnabled rule.id

/- Without the secret the gate does not look at the payload. -/
theorem authorize_of_not_accepts
    (hToken : ¬ rule.trigger.Accepts token)
    (payload : Document) :
    rule.authorize token payload = .error rule.refusal := by
  rw [Trigger.accepts_iff] at hToken
  unfold authorize refusal
  by_cases hKind : rule.trigger.kind = .webhook
  · cases hSecret : rule.trigger.secret? with
    | none => simp [hKind]
    | some secret =>
        have hNe : secret ≠ token := by
          rintro rfl
          exact hToken hSecret
        simp [hKind, hNe]
  · simp [hKind]

/- The rule with other fields that a call may or must bring. -/
def withSchema
    (rule : Rule)
    (schema? : Option InputSchema) :
    Rule :=
  { rule with
    trigger := { rule.trigger with schema? := schema? } }

@[simp] theorem withSchema_refusal
    (schema? : Option InputSchema) :
    (rule.withSchema schema?).refusal = rule.refusal := rfl

@[simp] theorem withSchema_accepts
    (schema? : Option InputSchema) :
    (rule.withSchema schema?).trigger.Accepts token ↔
      rule.trigger.Accepts token := Iff.rfl

end Rule

------------------------------------------------------------
-- Webhook Calls
------------------------------------------------------------

namespace Engine

/- A rule that is stored under an id. -/
def Stores
    (engine : Engine)
    (id : String)
    (rule : Rule) : Prop :=
  engine.collaborators.rule id = .ok (some rule)

/- A webhook call that the rule under an id lets through. -/
def Admits
    (engine : Engine)
    (id token : String)
    (payload : Document) : Prop :=
  ∃ rule, engine.Stores id rule ∧ rule.Admits token payload

/- What becomes of a webhook call, from its arrival to its answer. -/
def answerHook
    (engine : Engine)
    (id token : String)
    (payload : Document) :
    Activity (Except Rejection Report) :=
  match engine.runHook id token payload with
  | .error rejection => Activity.done (.error rejection)
  | .ok activity => do return .ok (← activity)

/- What callers of webhooks, and the owners of rules, may rely on. -/
structure GuardsHook
    (engine : Engine) : Prop where
  /- A report is the answer to the calls that are admitted. -/
  reports_iff :
    ∀ id token payload start,
      (∃ report,
          (engine.answerHook id token payload start).ending =
            .returned (.ok report)) ↔
        engine.Admits id token payload
  /- Nothing is called for the sake of any other call. -/
  calls :
    ∀ id token payload start time call due pause?,
      (Step.call time call due pause?).Occurs
          (engine.answerHook id token payload start).steps →
        engine.Admits id token payload
  /- Every other call is turned away at once. -/
  rejects :
    ∀ id token payload,
      ¬ engine.Admits id token payload →
        ∃ rejection,
          engine.answerHook id token payload =
            Activity.done (.error rejection)
  /-
    Without the secret, the answer tells neither the payload nor the fields
    that the rule asks for.
  -/
  blind :
    ∀ (other : Engine) (id token : String) (rule : Rule)
      (schema? : Option InputSchema)
      (payload changed : Document),
      engine.Stores id rule →
        other.Stores id (rule.withSchema schema?) →
          ¬ rule.trigger.Accepts token →
            engine.answerHook id token payload =
              other.answerHook id token changed

variable {engine : Engine}
variable {id token : String}
variable {payload : Document}
variable {rule : Rule}

theorem loadRule_eq_ok_iff :
    engine.loadRule id = .ok rule ↔ engine.Stores id rule := by
  unfold loadRule Stores
  split <;> simp_all

/- A rule that admits a call is run for it. -/
theorem runHook_of_admits
    (hStores : engine.Stores id rule)
    (hAdmits : rule.Admits token payload) :
    engine.runHook id token payload =
      engine.run rule payload .webhook := by
  unfold runHook
  rw [loadRule_eq_ok_iff.mpr hStores]
  dsimp only
  rw [(Rule.authorize_eq_ok_iff hAdmits.active).mpr hAdmits]

/- A call that leads to a run is one that is admitted. -/
theorem admits_of_runHook
    {activity : Activity Report}
    (hHook : engine.runHook id token payload = .ok activity) :
    engine.Admits id token payload := by
  unfold runHook at hHook
  split at hHook
  · cases hHook
  · rename_i rule hLoad
    split at hHook
    · cases hHook
    · rename_i hOpen
      have hActive := active_of_run hHook
      exact
        ⟨rule, loadRule_eq_ok_iff.mp hLoad,
          (Rule.authorize_eq_ok_iff hActive).mp hOpen⟩

theorem answerHook_of_rejected
    {rejection : Rejection}
    (hHook :
      engine.runHook id token payload = .error rejection) :
    engine.answerHook id token payload =
      Activity.done (.error rejection) := by
  unfold answerHook
  rw [hHook]

theorem answerHook_of_run
    {activity : Activity Report}
    (hHook : engine.runHook id token payload = .ok activity) :
    engine.answerHook id token payload =
      activity.andThen fun report =>
        Activity.done (.ok report) := by
  unfold answerHook
  rw [hHook]
  rfl

/- A call that is admitted is carried out to a report. -/
theorem answerHook_of_admits
    (hAdmits : engine.Admits id token payload)
    (start : Nat) :
    ∃ report,
      (engine.answerHook id token payload start).ending =
        .returned (.ok report) := by
  rcases hAdmits with ⟨rule, hStores, hAdmits⟩
  have hHook := runHook_of_admits hStores hAdmits
  have hActive := hAdmits.active
  rcases exists_run hActive payload .webhook with
    ⟨activity, hRun⟩
  rcases run_spec hRun start with ⟨steps, report, hActivity, _⟩
  refine ⟨report, ?_⟩
  rw [answerHook_of_run (hHook.trans hRun),
    Activity.andThen_apply_of_returned
      (congrArg Episode.ending hActivity)]
  rfl

/- A call that is not admitted is turned away. -/
theorem answerHook_of_not_admits
    (hAdmits : ¬ engine.Admits id token payload) :
    ∃ rejection,
      engine.answerHook id token payload =
        Activity.done (.error rejection) := by
  cases hHook : engine.runHook id token payload with
  | ok activity => exact absurd (admits_of_runHook hHook) hAdmits
  | error rejection =>
      exact ⟨rejection, answerHook_of_rejected hHook⟩

/- A call without the secret is told no more than that. -/
theorem answerHook_of_not_accepts
    (hStores : engine.Stores id rule)
    (hToken : ¬ rule.trigger.Accepts token)
    (payload : Document) :
    engine.answerHook id token payload =
      Activity.done (.error rule.refusal) := by
  apply answerHook_of_rejected
  unfold runHook
  rw [loadRule_eq_ok_iff.mpr hStores]
  dsimp only
  rw [Rule.authorize_of_not_accepts hToken]

/-
  Only a call that the rule under the id admits is answered with a report
  or calls anything.  Without the secret, every payload and every schema
  comes to the same answer.
-/
theorem guardsHook
    (engine : Engine) :
    engine.GuardsHook := by
  constructor
  case reports_iff =>
    intro id token payload start
    by_cases hAdmits : engine.Admits id token payload
    · have hReport := answerHook_of_admits hAdmits start
      exact iff_of_true hReport hAdmits
    · rcases answerHook_of_not_admits hAdmits with
        ⟨rejection, hRejected⟩
      refine iff_of_false ?_ hAdmits
      rintro ⟨report, hReport⟩
      rw [hRejected] at hReport
      cases hReport
  case calls =>
    intro id token payload start time call due pause? hOccurs
    by_cases hAdmits : engine.Admits id token payload
    · exact hAdmits
    · rcases answerHook_of_not_admits hAdmits with
        ⟨rejection, hRejected⟩
      rw [hRejected] at hOccurs
      exact absurd hOccurs Step.not_occurs_nil
  case rejects =>
    intro id token payload hAdmits
    exact answerHook_of_not_admits hAdmits
  case blind =>
    intro other id token rule schema? payload changed hStores
      hOther hToken
    rw [answerHook_of_not_accepts hStores hToken,
      answerHook_of_not_accepts hOther
        ((not_congr (Rule.withSchema_accepts schema?)).mpr
          hToken),
      Rule.withSchema_refusal]

/- A rule with a secret, for calls that bring the id of an order. -/
def hookedRule : Rule :=
  { ruleOf "hook" .sequential [asks "model"] with
    trigger :=
      ⟨.webhook, some "sécret", some ⟨[⟨"order.id", none, true⟩]⟩⟩ }

/- An order with an id. -/
def order : Document :=
  .object [("order", .object [("id", .text "7")])]

theorem hookedRule_admits :
    hookedRule.Admits "sécret" order := by
  refine ⟨rfl, rfl, ⟨"sécret", rfl, by decide, rfl⟩, ?_⟩
  intro schema field hSchema hField _
  cases hSchema
  rw [List.mem_singleton] at hField
  subst hField
  exact Document.hasField_iff.mp rfl

theorem hookedRule_guardsHook :
    (∃ report,
        ((unhurried 100 1 [("hook", hookedRule)]).answerHook
          "hook" "sécret" order 0).ending =
          .returned (.ok report)) ∧
      ¬ hookedRule.trigger.Accepts "sécre" ∧
      (unhurried 100 1 [("hook", hookedRule)]).answerHook
          "hook" "sécre" order =
        (unhurried 100 1
            [("hook", hookedRule.withSchema none)]).answerHook
          "hook" "sécre" .null := by
  have hToken : ¬ hookedRule.trigger.Accepts "sécre" := by
    rw [Trigger.accepts_iff]
    decide
  refine ⟨?_, hToken, ?_⟩
  · exact
      ((guardsHook _).reports_iff _ _ _ _).mpr
        ⟨hookedRule, rfl, hookedRule_admits⟩
  · exact
      (guardsHook _).blind _ "hook" "sécre" hookedRule none order
        .null rfl rfl hToken

end Engine

end Automation
