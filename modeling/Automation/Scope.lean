import Automation.Task

/-
  The scope of a run: who runs, by way of which rules, and until when.

  A run that another run starts shares the deadline of the other, and adds
  its rule to the chain.

  Key definitions include:
    * `Scope.root` and `Scope.child`
    * `Scope.checkChain`, whether another rule may be started
-/

namespace Automation

structure Scope where
  rule : String
  user : String
  /- The rules that led here, the first one first. -/
  chain : List String
  depth : Nat
  deadline : Nat
  /- The time that was left when the run started. -/
  budget : Nat
deriving DecidableEq, Inhabited

namespace Scope

/- The scope of a run that nothing else started. -/
def root
    (rule : Rule)
    (timeout now : Nat) :
    Scope where
  rule := rule.id
  user := rule.user
  chain := [rule.id]
  depth := 0
  deadline := now + timeout
  budget := timeout

/- The scope of a run that is started within another scope. -/
def child
    (scope : Scope)
    (rule : Rule)
    (timeout now : Nat) :
    Scope where
  rule := rule.id
  user := rule.user
  chain := scope.chain ++ [rule.id]
  depth := scope.depth + 1
  deadline := min scope.deadline (now + timeout)
  budget := min scope.deadline (now + timeout) - now

/- A rule is not started again below itself, nor too deep. -/
def checkChain
    (scope : Scope)
    (rule : String)
    (maxDepth : Nat) :
    Except ChainFault Unit :=
  if scope.chain.contains rule then .error (.cycle rule scope.chain)
  else if maxDepth < scope.depth + 1 then .error (.tooDeep rule maxDepth)
  else .ok ()

def isExpired
    (scope : Scope)
    (now : Nat) :
    Bool :=
  scope.deadline ≤ now

end Scope

end Automation
