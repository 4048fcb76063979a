import Automation.Proofs.Hooks
import Automation.Proofs.Validity

/-
  Copies of rules.

  A copy of a rule that can be loaded has its condition and its actions,
  and remembers the rule it was made from.  It has no secret: whoever calls
  it over a webhook is turned away, whatever the call brings.  A copy of a
  rule for webhook calls is a rule for webhook calls still, so it cannot be
  loaded before it is given a secret of its own.  All other copies can.

  Key definitions include:
    * `Rule.withToken`, a rule that is given a secret
    * `Rule.CopiesTo`, what becomes of a rule in its copy

  Key theorems include:
    * `Rule.refusal_of_not_hasSecret`, calls to rules without a secret
    * `Rule.validate_cloneAs`, the copies that can be loaded
    * `Rule.copiesTo`, all of it together
-/

namespace Automation

------------------------------------------------------------
-- Rules Without A Secret
------------------------------------------------------------

/- A call that is let in has presented a secret. -/
theorem Trigger.Accepts.hasSecret
    {trigger : Trigger}
    {token : String}
    (hAccepts : trigger.Accepts token) :
    trigger.HasSecret := by
  rcases hAccepts with ⟨secret, hToken, hSecret, _⟩
  exact ⟨secret, hToken, hSecret⟩

namespace Rule

variable {rule : Rule}
variable {id name token : String}

theorem refusal_of_not_hasSecret
    (hSecret : ¬ rule.trigger.HasSecret) :
    rule.refusal = .webhookNotEnabled rule.id := by
  rw [← Trigger.secret?_eq_none_iff] at hSecret
  simp [refusal, hSecret]

theorem cloneAs_not_hasSecret :
    ¬ (rule.cloneAs id name).trigger.HasSecret := by
  rintro ⟨token, hToken, _⟩
  cases hToken

------------------------------------------------------------
-- Copies That Can Be Loaded
------------------------------------------------------------

/- The rule with a secret for webhook calls. -/
def withToken
    (rule : Rule)
    (token : String) :
    Rule :=
  { rule with
    trigger := { rule.trigger with token? := some token } }

/- The ids of the actions are those of the rule. -/
theorem Identified.cloneAs
    (hRule : rule.Identified)
    (hId : Text.IsVisible id)
    (name : String) :
    (rule.cloneAs id name).Identified where
  visible := hId
  actionsVisible := hRule.actionsVisible
  distinct := hRule.distinct

/- A copy lacks nothing but a secret. -/
theorem validate_cloneAs
    (hRule : rule.Identified)
    (hId : Text.IsVisible id)
    (name : String) :
    (rule.cloneAs id name).validate =
      if rule.trigger.kind = .webhook then .error .missingToken
      else .ok () := by
  have hSecret :
      (rule.cloneAs id name).trigger.secret? = none :=
    Trigger.secret?_eq_none_iff.mpr cloneAs_not_hasSecret
  have hKind :
      (rule.cloneAs id name).trigger.kind =
        rule.trigger.kind := rfl
  rw [validate_of_identified (hRule.cloneAs hId name), hKind]
  simp only [hSecret, and_true]

/- With a secret of its own, every copy can be loaded. -/
theorem validate_cloneAs_withToken
    (hRule : rule.Identified)
    (hId : Text.IsVisible id)
    (name : String)
    (hToken : token ≠ "") :
    ((rule.cloneAs id name).withToken token).validate =
      .ok () := by
  rw [validate_eq_ok_iff]
  have hCopy := hRule.cloneAs hId name
  exact
    { visible := hCopy.visible
      actionsVisible := hCopy.actionsVisible
      distinct := hCopy.distinct
      hasSecret := fun _ => ⟨token, rfl, hToken⟩ }

------------------------------------------------------------
-- What A Copy Is Like
------------------------------------------------------------

/- A rule and its copy under another id. -/
structure CopiesTo
    (rule : Rule)
    (id name : String)
    (copy : Rule) : Prop where
  named : copy.id = id ∧ copy.name = name
  parent : copy.parent? = some rule.id
  condition : copy.logic.condition = rule.logic.condition
  actions : copy.logic.actions = rule.logic.actions
  loads_iff :
    copy.validate = .ok () ↔ rule.trigger.kind ≠ .webhook
  /- Nothing but its secret keeps a copy from being loaded. -/
  lacks :
    rule.trigger.kind = .webhook →
      copy.validate = .error .missingToken
  loadsAgain :
    ∀ token,
      token ≠ "" → (copy.withToken token).validate = .ok ()
  closed :
    ∀ token payload,
      copy.authorize token payload =
        .error (.webhookNotEnabled id)
  /- An engine that has the copy starts no run of it for a call. -/
  unanswered :
    ∀ (engine : Engine) (key token : String)
      (payload : Document),
      engine.Stores key copy →
        engine.answerHook key token payload =
          Activity.done (.error (.webhookNotEnabled id))

/-
  Every copy of a rule that can be loaded keeps its logic and is closed to
  webhook calls, and can be loaded just when the rule is not for such
  calls.
-/
theorem copiesTo
    (hRule : rule.validate = .ok ())
    (hId : Text.IsVisible id)
    (name : String) :
    rule.CopiesTo id name (rule.cloneAs id name) := by
  have hIdentified := identified_of_validate hRule
  have hValidate := validate_cloneAs hIdentified hId name
  have hRefusal :
      (rule.cloneAs id name).refusal = .webhookNotEnabled id :=
    refusal_of_not_hasSecret cloneAs_not_hasSecret
  have hClosed :
      ∀ token,
        ¬ (rule.cloneAs id name).trigger.Accepts token :=
    fun token hAccepts =>
      cloneAs_not_hasSecret hAccepts.hasSecret
  refine
    { named := ⟨rfl, rfl⟩
      parent := rfl
      condition := rfl
      actions := rfl
      loads_iff := ?loads
      lacks := ?lacks
      loadsAgain := ?again
      closed := ?closed
      unanswered := ?unanswered }
  case loads =>
    rw [hValidate]
    split <;> simp_all
  case lacks =>
    intro hKind
    rw [hValidate, if_pos hKind]
  case again =>
    intro token
    exact validate_cloneAs_withToken hIdentified hId name
  case closed =>
    intro token payload
    rw [authorize_of_not_accepts (hClosed token), hRefusal]
  case unanswered =>
    intro engine key token payload hStores
    rw [Engine.answerHook_of_not_accepts hStores (hClosed token),
      hRefusal]

/- A copy of a rule for webhook calls, which is closed to them. -/
theorem hookedRule_copiesTo :
    Engine.hookedRule.validate = .ok () ∧
      Text.IsVisible "copy" ∧
      Engine.hookedRule.CopiesTo "copy" "Copy"
        (Engine.hookedRule.cloneAs "copy" "Copy") :=
  have hVisible : Text.IsVisible "copy" :=
    Text.isBlankText_eq_false_iff.mp rfl
  ⟨rfl, hVisible, copiesTo rfl hVisible "Copy"⟩

/- A rule can be loaded, and its copy cannot. -/
theorem hookedRule_copy_lacks_secret :
    Engine.hookedRule.validate = .ok () ∧
      Text.IsVisible "copy" ∧
      (Engine.hookedRule.cloneAs "copy" "Copy").validate =
        .error .missingToken :=
  ⟨rfl, Text.isBlankText_eq_false_iff.mp rfl, rfl⟩

end Rule

end Automation
