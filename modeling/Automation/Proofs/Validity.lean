import Automation.Rule.Validity
import Mathlib.Data.List.Nodup

/-
  The rules that are fit to be loaded.

  A rule is fit when everything in it can be told apart by its id: the rule
  and each of its actions have an id that is not just white space, and no
  two actions share one.  A rule for webhook calls needs a secret as well.
  Nothing else is looked at, so these are just the rules that are accepted.
  A rule that is rejected is told of the first fault that it has: that of
  its own id, then that of the first action that has one, then the secret.

  Key definitions include:
    * `Text.IsVisible`, a text that is not just white space
    * `Distinguished`, actions that their ids tell apart
    * `Rule.Identified`, a rule of such actions
    * `HasFirstFault`, the fault of the first action that has one
    * `Rule.IsFit`, the rules to be loaded
    * `Rule.HasFault`, what the others are told

  Key theorems include:
    * `validateActions_eq_ok_iff` and `validateActions_eq_error_iff`, the
      scan over the actions
    * `Rule.validate_of_identified`, what is left to ask for then
    * `Rule.validate_eq_ok_iff`, the rules that are accepted
    * `Rule.validate_eq_error_iff`, the faults of the others
-/

namespace Automation

------------------------------------------------------------
-- Texts That Can Be Seen
------------------------------------------------------------

namespace Text

/- A text with a character that is not white space. -/
def IsVisible
    (s : String) : Prop :=
  ∃ c ∈ s.toList, isBlank c = false

theorem isBlankText_eq_false_iff
    {s : String} :
    isBlankText s = false ↔ IsVisible s := by
  unfold isBlankText IsVisible
  rw [List.all_eq_false]
  simp only [Bool.not_eq_true]

theorem isBlankText_iff
    {s : String} :
    isBlankText s = true ↔ ¬ IsVisible s := by
  rw [← isBlankText_eq_false_iff, Bool.not_eq_false]

end Text

------------------------------------------------------------
-- Ids
------------------------------------------------------------

/-
  Actions whose ids are visible, differ from each other, and are none of
  those seen before.
-/
structure Distinguished
    (seen : List String)
    (actions : List Action) : Prop where
  visible : ∀ action ∈ actions, Text.IsVisible action.id
  nodup : (actions.map (·.id)).Nodup
  fresh : ∀ action ∈ actions, action.id ∉ seen

section Scan

variable {seen : List String}
variable {action : Action}
variable {rest : List Action}

theorem Distinguished.nil :
    Distinguished seen [] where
  visible := nofun
  nodup := List.nodup_nil
  fresh := nofun

/- The first id counts as seen for the actions that follow. -/
theorem distinguished_cons_iff :
    Distinguished seen (action :: rest) ↔
      Text.IsVisible action.id ∧ action.id ∉ seen ∧
        Distinguished (action.id :: seen) rest := by
  constructor
  · rintro ⟨hVisible, hNodup, hFresh⟩
    rw [List.forall_mem_cons] at hVisible hFresh
    rw [List.map_cons, List.nodup_cons] at hNodup
    refine ⟨hVisible.1, hFresh.1, hVisible.2, hNodup.2, ?_⟩
    intro other hOther hSeen
    rcases List.mem_cons.mp hSeen with hSame | hSeen
    · exact hNodup.1
        (List.mem_map.mpr ⟨other, hOther, hSame⟩)
    · exact hFresh.2 other hOther hSeen
  · rintro ⟨hVisible, hFresh, hRest⟩
    refine ⟨?_, ?_, ?_⟩
    · exact List.forall_mem_cons.mpr ⟨hVisible, hRest.visible⟩
    · rw [List.map_cons, List.nodup_cons]
      refine ⟨?_, hRest.nodup⟩
      intro hMem
      rcases List.mem_map.mp hMem with ⟨other, hOther, hSame⟩
      exact hRest.fresh other hOther
        (hSame ▸ List.mem_cons_self)
    · refine List.forall_mem_cons.mpr ⟨hFresh, ?_⟩
      intro other hOther hSeen
      exact hRest.fresh other hOther
        (List.mem_cons_of_mem _ hSeen)

end Scan

/- By induction on the actions, with more and more ids seen. -/
theorem validateActions_eq_ok_iff
    {seen : List String}
    {actions : List Action} :
    validateActions seen actions = .ok () ↔
      Distinguished seen actions := by
  induction actions generalizing seen with
  | nil => exact iff_of_true rfl .nil
  | cons action rest ih =>
      rw [distinguished_cons_iff, validateActions,
        ← Text.isBlankText_eq_false_iff]
      split
      · rename_i hBlank
        simp [hBlank]
      · rename_i hVisible
        split
        · rename_i hSeen
          rw [List.contains_iff_mem] at hSeen
          simp [hSeen]
        · rename_i hFresh
          rw [List.contains_iff_mem] at hFresh
          simp [hVisible, hFresh, ih]

------------------------------------------------------------
-- Faults Of Actions
------------------------------------------------------------

/- What is wrong with an action, with others before it. -/
inductive Spoils
    (seen : List String)
    (before : List Action)
    (action : Action) :
    RuleFault → Prop
  | blank
      (hBlank : ¬ Text.IsVisible action.id) :
      Spoils seen before action (.blankActionId action.type)
  | repeated
      (hVisible : Text.IsVisible action.id)
      (hSeen :
        action.id ∈ seen ∨ action.id ∈ before.map (·.id)) :
      Spoils seen before action (.repeatedActionId action.id)

/- The fault of the first action that has one. -/
structure FirstFault
    (seen : List String)
    (before : List Action)
    (action : Action)
    (fault : RuleFault) : Prop where
  distinguished : Distinguished seen before
  spoils : Spoils seen before action fault

/- The first fault is that of an action somewhere in the list. -/
def HasFirstFault
    (seen : List String)
    (actions : List Action)
    (fault : RuleFault) : Prop :=
  ∃ before action after,
    actions = before ++ action :: after ∧
      FirstFault seen before action fault

section Faults

variable {seen : List String}
variable {before rest : List Action}
variable {first action : Action}
variable {fault : RuleFault}

theorem spoils_iff_of_blank
    (hBlank : ¬ Text.IsVisible action.id) :
    Spoils seen before action fault ↔
      .blankActionId action.type = fault := by
  constructor
  · intro hSpoils
    cases hSpoils with
    | blank => rfl
    | repeated hVisible => exact absurd hVisible hBlank
  · rintro rfl
    exact .blank hBlank

theorem spoils_iff_of_visible
    (hVisible : Text.IsVisible action.id) :
    Spoils seen before action fault ↔
      (action.id ∈ seen ∨ action.id ∈ before.map (·.id)) ∧
        .repeatedActionId action.id = fault := by
  constructor
  · intro hSpoils
    cases hSpoils with
    | blank hBlank => exact absurd hVisible hBlank
    | repeated _ hSeen => exact ⟨hSeen, rfl⟩
  · rintro ⟨hSeen, rfl⟩
    exact .repeated hVisible hSeen

/- The ids of the actions before count as seen. -/
theorem spoils_cons_iff :
    Spoils seen (first :: before) action fault ↔
      Spoils (first.id :: seen) before action fault := by
  by_cases hVisible : Text.IsVisible action.id
  · rw [spoils_iff_of_visible hVisible,
      spoils_iff_of_visible hVisible, List.map_cons,
      List.mem_cons, List.mem_cons, or_assoc, or_left_comm]
  · rw [spoils_iff_of_blank hVisible,
      spoils_iff_of_blank hVisible]

/- Either the first action has a fault, or one that follows it does. -/
theorem hasFirstFault_cons_iff :
    HasFirstFault seen (action :: rest) fault ↔
      Spoils seen [] action fault ∨
        Text.IsVisible action.id ∧ action.id ∉ seen ∧
          HasFirstFault (action.id :: seen) rest fault := by
  constructor
  · rintro ⟨before, spoiled, after, hActions, hFirst⟩
    cases before with
    | nil =>
        cases hActions
        exact Or.inl hFirst.spoils
    | cons first before =>
        cases hActions
        rcases distinguished_cons_iff.mp hFirst.distinguished with
          ⟨hVisible, hFresh, hBefore⟩
        exact Or.inr
          ⟨hVisible, hFresh, before, spoiled, after, rfl,
            hBefore, spoils_cons_iff.mp hFirst.spoils⟩
  · rintro (hSpoils | ⟨hVisible, hFresh, hRest⟩)
    · exact ⟨[], action, rest, rfl, .nil, hSpoils⟩
    · rcases hRest with
        ⟨before, spoiled, after, rfl, hFirst⟩
      refine ⟨action :: before, spoiled, after, rfl, ?_, ?_⟩
      · exact distinguished_cons_iff.mpr
          ⟨hVisible, hFresh, hFirst.distinguished⟩
      · exact spoils_cons_iff.mpr hFirst.spoils

end Faults

theorem not_hasFirstFault_nil
    {seen : List String}
    {fault : RuleFault} :
    ¬ HasFirstFault seen [] fault := by
  rintro ⟨before, action, after, hActions, _⟩
  simp at hActions

/- By induction on the actions, with more and more ids seen. -/
theorem validateActions_eq_error_iff
    {seen : List String}
    {actions : List Action}
    {fault : RuleFault} :
    validateActions seen actions = .error fault ↔
      HasFirstFault seen actions fault := by
  induction actions generalizing seen with
  | nil => exact iff_of_false nofun not_hasFirstFault_nil
  | cons action rest ih =>
      rw [hasFirstFault_cons_iff, validateActions]
      split
      · rename_i hBlank
        have hInvisible : ¬ Text.IsVisible action.id :=
          Text.isBlankText_iff.mp hBlank
        rw [spoils_iff_of_blank hInvisible]
        simp [hInvisible]
      · rename_i hVisible
        have hVisible : Text.IsVisible action.id :=
          Text.isBlankText_eq_false_iff.mp
            (eq_false_of_ne_true hVisible)
        rw [spoils_iff_of_visible hVisible]
        split
        · rename_i hSeen
          rw [List.contains_iff_mem] at hSeen
          simp [hSeen]
        · rename_i hFresh
          rw [List.contains_iff_mem] at hFresh
          simp [hVisible, hFresh, ih]

------------------------------------------------------------
-- Rules
------------------------------------------------------------

/- A secret that is not empty. -/
def Trigger.HasSecret
    (trigger : Trigger) : Prop :=
  ∃ token, trigger.token? = some token ∧ token ≠ ""

theorem Trigger.secret?_eq_none_iff
    {trigger : Trigger} :
    trigger.secret? = none ↔ ¬ trigger.HasSecret := by
  unfold secret? HasSecret
  rw [Option.filter_eq_none_iff]
  simp

namespace Rule

variable {rule : Rule}

/- A rule and actions that can be told apart by their ids. -/
structure Identified
    (rule : Rule) : Prop where
  visible : Text.IsVisible rule.id
  actionsVisible :
    ∀ action ∈ rule.logic.actions, Text.IsVisible action.id
  distinct : (rule.logic.actions.map (·.id)).Nodup

/- A rule that can be loaded. -/
structure IsFit
    (rule : Rule) : Prop extends Identified rule where
  hasSecret :
    rule.trigger.kind = .webhook → rule.trigger.HasSecret

/- Before the first action, no id is seen. -/
theorem identified_iff :
    rule.Identified ↔
      Text.isBlankText rule.id = false ∧
        validateActions [] rule.logic.actions = .ok () := by
  rw [Text.isBlankText_eq_false_iff, validateActions_eq_ok_iff]
  constructor
  · intro hIdentified
    exact
      ⟨hIdentified.visible, hIdentified.actionsVisible,
        hIdentified.distinct, fun _ _ => List.not_mem_nil⟩
  · rintro ⟨hVisible, hActions⟩
    exact ⟨hVisible, hActions.visible, hActions.nodup⟩

/- Once the ids are in order, only the secret can be missing. -/
theorem validate_of_identified
    (hIdentified : rule.Identified) :
    rule.validate =
      if rule.trigger.kind = .webhook ∧
          rule.trigger.secret? = none then
        .error .missingToken
      else .ok () := by
  rcases identified_iff.mp hIdentified with ⟨hVisible, hActions⟩
  unfold validate
  rw [hVisible, hActions]
  rfl

theorem identified_of_validate
    (hValidate : rule.validate = .ok ()) :
    rule.Identified := by
  rw [identified_iff]
  unfold validate at hValidate
  split at hValidate
  · cases hValidate
  · rename_i hVisible
    split at hValidate
    · cases hValidate
    · rename_i hActions
      exact ⟨eq_false_of_ne_true hVisible, hActions⟩

/- Just the rules that are fit are accepted. -/
theorem validate_eq_ok_iff :
    rule.validate = .ok () ↔ rule.IsFit := by
  constructor
  · intro hValidate
    have hIdentified := identified_of_validate hValidate
    refine ⟨hIdentified, ?_⟩
    intro hKind
    rw [validate_of_identified hIdentified] at hValidate
    by_contra hSecret
    rw [if_pos ⟨hKind, Trigger.secret?_eq_none_iff.mpr hSecret⟩]
      at hValidate
    cases hValidate
  · intro hFit
    rw [validate_of_identified hFit.toIdentified, if_neg]
    rintro ⟨hKind, hSecret⟩
    exact
      Trigger.secret?_eq_none_iff.mp hSecret
        (hFit.hasSecret hKind)

/- The faults that are looked for, in this order. -/
inductive HasFault
    (rule : Rule) :
    RuleFault → Prop
  | unnamed
      (hId : ¬ Text.IsVisible rule.id) :
      HasFault rule .blankId
  | spoiled
      {fault : RuleFault}
      (hId : Text.IsVisible rule.id)
      (hActions : HasFirstFault [] rule.logic.actions fault) :
      HasFault rule fault
  | secretless
      (hIdentified : rule.Identified)
      (hKind : rule.trigger.kind = .webhook)
      (hSecret : ¬ rule.trigger.HasSecret) :
      HasFault rule .missingToken

/- A rule that is rejected is told of its first fault. -/
theorem validate_eq_error_iff
    {fault : RuleFault} :
    rule.validate = .error fault ↔ rule.HasFault fault := by
  constructor
  · intro hValidate
    unfold validate at hValidate
    split at hValidate
    · rename_i hBlank
      cases hValidate
      exact .unnamed (Text.isBlankText_iff.mp hBlank)
    · rename_i hBlank
      have hId : Text.IsVisible rule.id :=
        Text.isBlankText_eq_false_iff.mp
          (eq_false_of_ne_true hBlank)
      split at hValidate
      · rename_i hActions
        cases hValidate
        exact .spoiled hId
          (validateActions_eq_error_iff.mp hActions)
      · rename_i hActions
        split at hValidate
        · rename_i hSecret
          cases hValidate
          exact .secretless
            (identified_iff.mpr
              ⟨eq_false_of_ne_true hBlank, hActions⟩)
            hSecret.1
            (Trigger.secret?_eq_none_iff.mp hSecret.2)
        · cases hValidate
  · intro hFault
    cases hFault with
    | unnamed hId =>
        rw [validate, if_pos (Text.isBlankText_iff.mpr hId)]
    | spoiled hId hActions =>
        have hVisible := Text.isBlankText_eq_false_iff.mpr hId
        unfold validate
        rw [hVisible, validateActions_eq_error_iff.mpr hActions]
        rfl
    | secretless hIdentified hKind hSecret =>
        rw [validate_of_identified hIdentified,
          if_pos
            ⟨hKind, Trigger.secret?_eq_none_iff.mpr hSecret⟩]

end Rule

end Automation
