import Automation.Proofs.ReadValues
import Automation.Proofs.Rereading
import Automation.Rule.Validity
import Automation.Rule.Written

/-
  The documents that rules are written as.

  A rule states documents of its own: the values its conditions compare
  with, and what its actions are configured with.  Where these are in
  order, the rule is read back from the document it is written as.  What a
  rule is read from may spell it in many ways; the rule that is read is
  always one of these.

  Key definitions include:
    * `Condition.Sorted`, `Action.Sorted` and `Rule.Sorted`

  Key theorems include:
    * `Condition.reads_document` and `Action.reads_document`
    * `Rule.reads_document`, a rule is read back
    * `Rule.gives_decoder`, every rule that is read is in order
    * `Rule.decoder_document`, both together
-/

namespace Automation

------------------------------------------------------------
-- Rules In Order
------------------------------------------------------------

namespace Condition

mutual

/- The documents that the tests compare with are in order. -/
def Sorted : Condition → Prop
  | .group _ members => SortedMembers members
  | .test _ _ value => value.Sorted

def SortedMembers : List Condition → Prop
  | [] => True
  | x :: xs => Sorted x ∧ SortedMembers xs

end

theorem sortedMembers_iff
    {members : List Condition} :
    SortedMembers members ↔
      ∀ member ∈ members, member.Sorted := by
  induction members with
  | nil => simp [SortedMembers]
  | cons first rest ih => simp [SortedMembers, ih]

end Condition

def Action.Sorted
    (action : Action) : Prop :=
  action.config.Sorted

structure Logic.Sorted
    (logic : Logic) : Prop where
  condition : logic.condition.Sorted
  actions : ∀ action ∈ logic.actions, action.Sorted

/- The documents of a rule are in order, as all that are built are. -/
def Rule.Sorted
    (rule : Rule) : Prop :=
  rule.logic.Sorted

------------------------------------------------------------
-- What A Written Object Holds
------------------------------------------------------------

theorem Record.reads_record
    {α : Type}
    {record : Record α}
    {parts : List (String × Document)}
    {a : α}
    (type : String)
    (hSingle : isSingle record.fields = true)
    (hReads : record.Reads (Table.ofList parts) a) :
    (record.decoder type).Reads (.record parts) a :=
  reads_decoder type hSingle (Table.sorted_ofList parts) hReads

theorem Record.reads_optionalText
    {entries : Entries}
    {name : String}
    {text? : Option String}
    (hFind :
      Table.find? entries name = text?.map Document.text) :
    (Record.optional [name] Decoder.text).Reads entries
      text? := by
  apply Record.reads_optional hFind
  intro s
  refine ⟨?_, Decoder.reads_text s⟩
  exact fun hNull => nomatch hNull

------------------------------------------------------------
-- Names
------------------------------------------------------------

theorem Junction.reads_name
    (junction : Junction) :
    Junction.decoder.Reads (.text junction.name) junction := by
  apply Decoder.reads_enumeration
  cases junction <;> rfl

theorem Strategy.reads_name
    (strategy : Strategy) :
    Strategy.decoder.Reads (.text strategy.name) strategy := by
  apply Decoder.reads_enumeration
  cases strategy <;> rfl

theorem Mode.reads_name
    (mode : Mode) :
    Mode.decoder.Reads (.text mode.name) mode := by
  apply Decoder.reads_enumeration
  cases mode <;> rfl

theorem TriggerKind.reads_name
    (kind : TriggerKind) :
    TriggerKind.decoder.Reads (.text kind.name) kind := by
  apply Decoder.reads_enumeration
  cases kind <;> rfl

------------------------------------------------------------
-- Conditions
------------------------------------------------------------

namespace Condition

theorem documents_eq_map
    (members : List Condition) :
    documents members = members.map document := by
  induction members with
  | nil => rfl
  | cons first rest ih => rw [documents, ih, List.map_cons]

/- The members of a group lie deeper than the group. -/
theorem depth_member_lt
    {junction : Junction}
    {members : List Condition}
    {member : Condition}
    (hMember : member ∈ members) :
    member.document.depth + 1 <
      (group junction members).document.depth := by
  have hItem : member.document ∈ documents members := by
    rw [documents_eq_map]
    exact List.mem_map_of_mem hMember
  have hFind :
      Document.under? ["children"]
          (Table.ofList
            [("type", .text "group"),
              ("operator", .text junction.name),
              ("children", .array (documents members))]) =
        some (.array (documents members)) := by
    simp [Document.under?_singleton]
  have hInner := Document.depth_le_depthItems hItem
  have hOuter := Document.depth_le_of_under? hFind
  rw [Document.depth] at hOuter
  rw [document, Document.record, Document.depth]
  omega

mutual

/- A condition is read back by every decoder that reaches deep enough. -/
theorem reads_within :
    (condition : Condition) →
      condition.Sorted →
        ∀ {depth : Nat},
          condition.document.depth < depth →
            (decoderWithin depth).Reads condition.document
              condition
  | .group junction members, hSorted, depth + 1, hDepth => by
      have hMembers :
          ∀ member ∈ members,
            member.document.depth < depth := by
        intro member hMember
        have hInner :
            member.document.depth + 1 <
              (group junction members).document.depth :=
          depth_member_lt hMember
        omega
      have hChildren :
          (Decoder.listOf (decoderWithin depth)).Reads
            (.array (documents members)) members := by
        rw [documents_eq_map]
        apply Decoder.reads_listOf
        exact reads_members members hSorted hMembers
      rw [document, decoderWithin]
      apply Decoder.reads_tagged "ConditionNode" "group"
        (Table.sorted_ofList _) (by simp) rfl
      apply Record.reads_decoder _ rfl
        (Table.sorted_erase (Table.sorted_ofList _) _)
      apply Record.reads_seq _
        (Record.reads_field (by simp [Table.find?_erase])
          hChildren)
      apply Record.reads_map
      exact
        Record.reads_field (by simp [Table.find?_erase])
          junction.reads_name
  | .test field comparison value, hSorted, depth + 1, _ => by
      rw [document, decoderWithin]
      apply Decoder.reads_tagged "ConditionNode" "condition"
        (Table.sorted_ofList _) (by simp) rfl
      apply Record.reads_decoder _ rfl
        (Table.sorted_erase (Table.sorted_ofList _) _)
      apply Record.reads_seq _
        (Record.reads_field (by simp [Table.find?_erase])
          (Decoder.reads_document hSorted))
      apply Record.reads_seq _
        (Record.reads_field (by simp [Table.find?_erase])
          (Decoder.reads_text comparison))
      apply Record.reads_map
      exact
        Record.reads_field (by simp [Table.find?_erase])
          (Decoder.reads_text field)

theorem reads_members :
    (members : List Condition) →
      SortedMembers members →
        ∀ {depth : Nat},
          (∀ member ∈ members,
            member.document.depth < depth) →
            ∀ member ∈ members,
              (decoderWithin depth).Reads member.document
                member
  | [], _, _, _ => nofun
  | x :: xs, hSorted, depth, hDepth => by
      intro member hMember
      rcases List.mem_cons.mp hMember with hSame | hLater
      · rw [hSame]
        exact
          reads_within x hSorted.1
            (hDepth x List.mem_cons_self)
      · have hRest :
            ∀ member ∈ xs, member.document.depth < depth :=
          fun other hOther =>
            hDepth other (List.mem_cons_of_mem _ hOther)
        exact reads_members xs hSorted.2 hRest member hLater

end

theorem reads_document
    {condition : Condition}
    (hSorted : condition.Sorted) :
    Condition.decoder.Reads condition.document condition := by
  intro dialect node hNode
  rw [decoder, hNode.depth]
  exact
    reads_within condition hSorted (Nat.lt_succ_self _) dialect
      node hNode

/- Whatever is read as a condition is in order. -/
theorem gives_within
    (depth : Nat) :
    (decoderWithin depth).Gives Sorted := by
  induction depth with
  | zero =>
      intro dialect node condition hRead
      exact absurd hRead (Node.mismatch_ne_ok _ _ _)
  | succ depth ih =>
      have hGroup :
          (groupRecord (decoderWithin depth)).Gives Sorted := by
        refine Record.gives_seq ?_
          (Record.gives_defaulted ["children"]
            (Decoder.gives_listOf ih) nofun)
        refine Record.gives_map ?_ (Record.gives_any _)
        intro junction _ members hMembers
        exact sortedMembers_iff.mpr hMembers
      have hTest : testRecord.Gives Sorted := by
        refine Record.gives_seq ?_
          (Record.gives_defaulted ["value"]
            Decoder.gives_document trivial)
        apply Record.gives_ignoring
        refine Record.gives_map ?_ (Record.gives_any _)
        intro field _ comparison value hValue
        exact hValue
      apply Decoder.gives_tagged
      intro entry hEntry
      rcases List.mem_cons.mp hEntry with rfl | hLater
      · exact Record.gives_decoder _ hGroup
      · rcases List.mem_singleton.mp hLater with rfl
        exact Record.gives_decoder _ hTest

theorem gives_decoder :
    Condition.decoder.Gives Sorted :=
  fun dialect node condition hRead =>
    gives_within (node.depth + 1) dialect node condition hRead

end Condition

------------------------------------------------------------
-- Actions
------------------------------------------------------------

namespace Action

theorem reads_document
    {action : Action}
    (hSorted : action.Sorted) :
    Action.decoder.Reads action.document action := by
  rcases action with ⟨id, type, config, strategy, target?⟩
  have hStrategy :
      (Strategy.record.decoder "struct ErrorHandling").Reads
        (.record [("strategy", .text strategy.name)])
        strategy := by
    apply Record.reads_record _ rfl
    apply Record.reads_map
    exact
      Record.reads_field (by simp)
        strategy.reads_name
  apply Record.reads_record _ rfl
  apply Record.reads_seq _ (Record.reads_optionalText (by simp))
  apply Record.reads_seq _
    (Record.reads_field (by simp) hStrategy)
  apply Record.reads_seq _
    (Record.reads_field (by simp)
      (Decoder.reads_document hSorted))
  apply Record.reads_seq _
    (Record.reads_field (by simp) (Decoder.reads_text type))
  apply Record.reads_map
  exact
    Record.reads_field (by simp) (Decoder.reads_text id)

theorem gives_decoder :
    Action.decoder.Gives Sorted := by
  have hRecord : Action.record.Gives Sorted := by
    apply Record.gives_ignoring
    apply Record.gives_ignoring
    refine Record.gives_seq ?_
      (Record.gives_defaulted ["config"]
        Decoder.gives_document trivial)
    apply Record.gives_ignoring
    refine Record.gives_map ?_ (Record.gives_any _)
    intro id _ type config hConfig strategy target?
    exact hConfig
  exact Record.gives_decoder _ hRecord

end Action

------------------------------------------------------------
-- Triggers
------------------------------------------------------------

theorem InputField.reads_document
    (field : InputField) :
    (InputField.record.decoder "struct InputField").Reads
      field.document field := by
  rcases field with ⟨name, type?, required⟩
  apply Record.reads_record _ rfl
  apply Record.reads_seq _
    (Record.reads_field (by simp)
      (Decoder.reads_boolean required))
  apply Record.reads_seq _ (Record.reads_optionalText (by simp))
  apply Record.reads_map
  exact
    Record.reads_field (by simp) (Decoder.reads_text name)

theorem InputSchema.reads_document
    (schema : InputSchema) :
    (InputSchema.record.decoder "struct InputSchema").Reads
      schema.document schema := by
  rcases schema with ⟨fields⟩
  have hFields :
      (Decoder.listOf
          (InputField.record.decoder
            "struct InputField")).Reads
        (.array (fields.map (·.document))) fields := by
    apply Decoder.reads_listOf
    exact fun field _ => field.reads_document
  apply Record.reads_record _ rfl
  apply Record.reads_map
  exact Record.reads_field (by simp) hFields

theorem Trigger.reads_document
    (trigger : Trigger) :
    (Trigger.record.decoder "struct TriggerConfig").Reads
      trigger.document trigger := by
  rcases trigger with ⟨kind, token?, schema?⟩
  have hSchema :
      ∀ schema : InputSchema,
        schema.document ≠ .null ∧
          (InputSchema.record.decoder
              "struct InputSchema").Reads
            schema.document schema :=
    fun schema => ⟨nofun, schema.reads_document⟩
  apply Record.reads_record _ rfl
  apply Record.reads_seq _
    (Record.reads_optional (by simp) hSchema)
  apply Record.reads_seq _ (Record.reads_optionalText (by simp))
  apply Record.reads_map
  exact Record.reads_field (by simp) kind.reads_name

------------------------------------------------------------
-- Rules
------------------------------------------------------------

theorem Logic.reads_document
    {logic : Logic}
    (hSorted : logic.Sorted) :
    (Logic.record.decoder "struct RuleLogic").Reads
      logic.document logic := by
  rcases logic with ⟨condition, actions⟩
  have hActions :
      (Decoder.listOf Action.decoder).Reads
        (.array (actions.map (·.document))) actions := by
    apply Decoder.reads_listOf
    intro action hAction
    exact Action.reads_document (hSorted.actions action hAction)
  apply Record.reads_record _ rfl
  apply Record.reads_seq _
    (Record.reads_field (by simp) hActions)
  apply Record.reads_map
  exact
    Record.reads_field (by simp)
      (Condition.reads_document hSorted.condition)

theorem Logic.gives_decoder :
    (Logic.record.decoder "struct RuleLogic").Gives
      Logic.Sorted := by
  have hRecord : Logic.record.Gives Logic.Sorted := by
    refine Record.gives_seq ?_
      (Record.gives_defaulted ["actions"]
        (Decoder.gives_listOf Action.gives_decoder) nofun)
    refine Record.gives_map ?_
      (Record.gives_defaulted ["conditions"]
        Condition.gives_decoder trivial)
    intro condition hCondition actions hActions
    exact ⟨hCondition, hActions⟩
  exact Record.gives_decoder _ hRecord

namespace Rule

/- A rule is read back from the document it is written as. -/
theorem reads_document
    {rule : Rule}
    (hSorted : rule.Sorted) :
    Rule.decoder.Reads rule.document rule := by
  rcases rule with
    ⟨id, user, name, description?, logic, mode, trigger,
      active, baseCost?, parent?, model?⟩
  have hCost :
      ∀ cost : UInt64,
        Document.integer cost.toNat ≠ .null ∧
          Decoder.word.Reads (.integer cost.toNat) cost :=
    fun cost => ⟨nofun, Decoder.reads_word cost⟩
  apply Record.reads_record _ rfl
  apply Record.reads_seq _ (Record.reads_optionalText (by simp))
  apply Record.reads_seq _ (Record.reads_optionalText (by simp))
  apply Record.reads_seq _
    (Record.reads_optional (by simp) hCost)
  apply Record.reads_seq _
    (Record.reads_field (by simp)
      (Decoder.reads_boolean active))
  apply Record.reads_seq _
    (Record.reads_field (by simp) trigger.reads_document)
  apply Record.reads_seq _
    (Record.reads_field (by simp) mode.reads_name)
  apply Record.reads_seq _
    (Record.reads_field (by simp)
      (Logic.reads_document hSorted))
  apply Record.reads_seq _ (Record.reads_optionalText (by simp))
  apply Record.reads_seq _
    (Record.reads_field (by simp) (Decoder.reads_text name))
  apply Record.reads_seq _
    (Record.reads_field (by simp) (Decoder.reads_text user))
  apply Record.reads_map
  exact
    Record.reads_field (by simp) (Decoder.reads_text id)

/- Every rule that is read is in order, however it was spelled. -/
theorem gives_decoder :
    Rule.decoder.Gives Sorted := by
  have hRecord : Rule.record.Gives Sorted := by
    iterate 6 apply Record.gives_ignoring
    refine Record.gives_seq ?_
      (Record.gives_defaulted ["logic"] Logic.gives_decoder
        ⟨trivial, nofun⟩)
    iterate 3 apply Record.gives_ignoring
    refine Record.gives_map ?_ (Record.gives_any _)
    intro id _ user name description? logic hLogic mode
      trigger active baseCost? parent? model?
    exact hLogic
  exact Record.gives_decoder _ hRecord

/-
  A rule is read back from the document it is written as, in every dialect.
  So whatever a rule was read from, writing it and reading it again changes
  nothing: not the rule, not what is wrong with it, and not how it is
  written.
-/
theorem decoder_document :
    (∀ rule : Rule,
      rule.Sorted →
        ∀ dialect,
          Rule.decoder dialect rule.document.node =
            .ok rule) ∧
      ∀ dialect node rule,
        Rule.decoder dialect node = .ok rule →
          rule.Sorted ∧
            ∀ other, ∃ again,
              Rule.decoder other rule.document.node =
                  .ok again ∧
                again = rule ∧
                again.validate = rule.validate ∧
                again.document = rule.document := by
  refine ⟨fun rule hSorted => (reads_document hSorted).of_node, ?_⟩
  intro dialect node rule hRead
  have hSorted := gives_decoder dialect node rule hRead
  refine ⟨hSorted, ?_⟩
  intro other
  exact
    ⟨rule, (reads_document hSorted).of_node other, rfl, rfl, rfl⟩

/- A rule that is spelled with less care than it is written with. -/
def looselySpelled : Document :=
  .record
    [("id", .text "r"),
      ("name", .text "n"),
      ("description", .null),
      ("logic",
        .array
          [.record
            [("type", .text "group"),
              ("operator", .text "or"),
              ("children",
                .array
                  [.array
                    [.text "condition", .text "x"]])],
            .array
              [.array
                [.text "a", .text "store-data",
                  .record
                    [("value", .integer 1),
                      ("key", .text "k")]]]]),
      ("triggerConfig",
        .record
          [("type", .text "webhook"),
            ("webhookToken", .text "t"),
            ("inputSchema",
              .record
                [("fields", .array [.array [.text "x"]])])])]

/- The rule that is meant. -/
def spelledOut : Rule where
  id := "r"
  user := ""
  name := "n"
  description? := none
  logic :=
    { condition := .anyOf [.test "x" "" .null]
      actions :=
        [⟨"a", "store-data",
          .object
            [("key", .text "k"), ("value", .integer 1)],
          .stop, none⟩] }
  mode := .sequential
  trigger :=
    { kind := .webhook
      token? := some "t"
      schema? := some ⟨[⟨"x", none, false⟩]⟩ }
  active := true
  baseCost? := none
  parent? := none
  model? := none

theorem decoder_document_spelledOut :
    Rule.spelledOut.Sorted ∧
      (∀ dialect,
        Rule.decoder dialect spelledOut.document.node =
          .ok spelledOut) ∧
      Rule.decoder .plain looselySpelled.node =
          .ok spelledOut ∧
        ∃ again,
          Rule.decoder .buffered spelledOut.document.node =
              .ok again ∧
            again = spelledOut ∧
            again.validate = spelledOut.validate ∧
            again.document = spelledOut.document := by
  have hConfig :
      Document.Sorted
        (.object
          [("key", .text "k"), ("value", .integer 1)]) :=
    ⟨by decide, trivial, trivial, trivial⟩
  have hActions :
      ∀ action ∈ spelledOut.logic.actions, action.Sorted := by
    intro action hAction
    rcases List.mem_singleton.mp hAction with rfl
    exact hConfig
  have hSorted : Rule.spelledOut.Sorted :=
    ⟨⟨trivial, trivial⟩, hActions⟩
  have hRead :
      Rule.decoder .plain looselySpelled.node =
        .ok spelledOut := rfl
  have hAgain :=
    decoder_document.2 .plain looselySpelled.node spelledOut
      hRead
  exact
    ⟨hSorted, decoder_document.1 spelledOut hSorted, hRead,
      hAgain.2 .buffered⟩

end Rule

end Automation
