import Automation.Binary64.Numeral
import Automation.Text.Blank

/-
  The limits that runs are held to.

  A limit on the time of a run is any number that an environment can name.
  The sum of the limit and the present time need not be a time any more, as
  a clock has only so many bits.

  Key definitions include:
    * `Clock.latest` and `Clock.longest`, what a clock can tell
    * `Settings` and `Settings.standard`
    * `Settings.ofEnvironment`, the limits named in an environment
-/

namespace Automation

------------------------------------------------------------
-- Clocks
------------------------------------------------------------

namespace Clock

/- The last time that a clock can tell: its seconds have 63 bits. -/
def latest : Nat := Nat.pow 2 63 * 1000 - 1

/- No clock has been running for longer, which is 35000 years or so. -/
def horizon : Nat := Nat.pow 2 40 * 1000

/- The longest wait that every clock can tell the end of. -/
def longest : Nat := latest - horizon

theorem add_le_latest
    {now wait : Nat}
    (hNow : now ≤ horizon)
    (hWait : wait ≤ longest) :
    now + wait ≤ latest :=
  calc
    now + wait ≤ horizon + longest := Nat.add_le_add hNow hWait
    _ = latest := by decide

end Clock

------------------------------------------------------------
-- Limits
------------------------------------------------------------

/- Times are in milliseconds. -/
structure Settings where
  maxChainDepth : Nat
  runTimeout : Nat
  maxParallelActions : Nat
  defaultBaseCost : UInt64
  webhookTimeout : Nat
deriving DecidableEq, Inhabited

namespace Settings

def standard : Settings where
  maxChainDepth := 5
  runTimeout := 30000
  maxParallelActions := 8
  defaultBaseCost := 1
  webhookTimeout := 10000

/- At least one action is carried out at a time. -/
def withMaxParallelActions
    (settings : Settings)
    (cap : Nat) :
    Settings :=
  { settings with maxParallelActions := max cap 1 }

/- A word of 64 bits in a text, white space around it allowed. -/
def word?
    (s : String) :
    Option Nat :=
  Numeral.natural? UInt64.size (Text.trimChars s.toList)

/- The names that limits have in an environment. -/
def names : List String :=
  ["RULEFLOW_MAX_CHAIN_DEPTH", "RULEFLOW_RUN_TIMEOUT_SECS",
    "RULEFLOW_MAX_PARALLEL_ACTIONS", "RULEFLOW_DEFAULT_BASE_COST",
    "RULEFLOW_WEBHOOK_TIMEOUT_SECS"]

/-
  The limits that an environment names.  A limit that it does not name, or
  not by a number, is the standard one.
-/
def ofEnvironment
    (find? : String → Option String) :
    Settings :=
  let named name := (find? name).bind word?
  { maxChainDepth :=
      (named "RULEFLOW_MAX_CHAIN_DEPTH").getD standard.maxChainDepth
    runTimeout :=
      ((named "RULEFLOW_RUN_TIMEOUT_SECS").map (· * 1000)).getD
        standard.runTimeout
    maxParallelActions :=
      max 1 ((named "RULEFLOW_MAX_PARALLEL_ACTIONS").getD
        standard.maxParallelActions)
    defaultBaseCost :=
      ((named "RULEFLOW_DEFAULT_BASE_COST").map UInt64.ofNat).getD
        standard.defaultBaseCost
    webhookTimeout :=
      ((named "RULEFLOW_WEBHOOK_TIMEOUT_SECS").map (· * 1000)).getD
        standard.webhookTimeout }

end Settings

end Automation
