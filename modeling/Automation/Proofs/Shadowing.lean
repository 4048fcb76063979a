import Automation.Proofs.FixedPaths
import Automation.Proofs.RequiredFields
import Automation.Proofs.Trimming

/-
  What the paths of a run name after variables were set.

  The fixed scope comes before the variables, and the names of the two
  scopes come last.  So no variable gets in the way of a path that begins
  with a name of the fixed scope.  But a variable gets in the way of a
  scope when it goes by the name of that scope: the paths that begin with
  this name then lead into the variable.

  Key definitions include:
    * `Context.setAll`, variables set one after the other
    * `Context.pathSegments`, the segments of a path
    * `Context.KeepsNames`, what paths name after variables were set
    * `Context.IsFresh`, a context no variable was set in yet

  Key theorems include:
    * `Context.lookup_of_start`, the two ways to a value at the start
    * `Context.resolve_kept_iff`, a path that resolved at the start
    * `Context.resolve_partPath_iff`, a path into a variable
    * `Context.setAll_keepsNames`
-/

namespace Automation

namespace Context

------------------------------------------------------------
-- Setting Variables
------------------------------------------------------------

/- A context after variables were set, one after the other. -/
def setAll
    (context : Context)
    (writes : List (String × Document)) :
    Context :=
  writes.foldl
    (fun context write => context.setVariable write.1 write.2)
    context

/- What was last written under a name. -/
def lastWritten?
    (writes : List (String × Document))
    (name : String) :
    Option Document :=
  (writes.reverse.find? fun write => write.1 = name).map (·.2)

variable {context start later : Context}
variable {writes : List (String × Document)}
variable {name path : String}
variable {value : Document}

theorem setAll_concat
    (context : Context)
    (writes : List (String × Document))
    (write : String × Document) :
    context.setAll (writes ++ [write]) =
      (context.setAll writes).setVariable write.1 write.2 := by
  simp [setAll]

theorem fixed_setVariable
    (context : Context)
    (name : String)
    (value : Document) :
    (context.setVariable name value).fixed = context.fixed :=
  rfl

theorem fixed_setAll
    (context : Context)
    (writes : List (String × Document)) :
    (context.setAll writes).fixed = context.fixed := by
  induction writes using List.reverseRecOn with
  | nil => rfl
  | append_singleton writes write ih =>
      rw [setAll_concat, fixed_setVariable, ih]

/- The value of a variable is what was last written under its name. -/
theorem valueOf?_setAll
    (hStart : context.assigned = [])
    (writes : List (String × Document))
    (name : String) :
    (context.setAll writes).valueOf? name =
      lastWritten? writes name := by
  induction writes using List.reverseRecOn with
  | nil =>
      unfold valueOf? setAll
      rw [List.foldl_nil, hStart]
      rfl
  | append_singleton writes write ih =>
      rw [setAll_concat, valueOf?_setVariable, ih]
      by_cases hName : name = write.1
      · simp [lastWritten?, hName]
      · have hOther : ¬ write.1 = name := fun h => hName h.symm
        simp [lastWritten?, hName, hOther]

theorem lastWritten?_eq_none
    (hUnnamed : ∀ write ∈ writes, write.1 ≠ name) :
    lastWritten? writes name = none := by
  unfold lastWritten?
  rw [Option.map_eq_none_iff, List.find?_eq_none]
  intro write hMem
  simpa using hUnnamed write (List.mem_reverse.mp hMem)

------------------------------------------------------------
-- The Ways To A Value
------------------------------------------------------------

def pathSegments
    (path : String) :
    List String :=
  Text.splitOn '.' (Text.trim path)

variable {head key : String}
variable {rest : List String}
variable {root : Document}

/- A path that resolves is not empty, at any time. -/
theorem resolve_eq_lookup
    (hResolve : start.resolve path = some value)
    (context : Context) :
    context.resolve path = context.lookup (pathSegments path) := by
  unfold resolve at hResolve ⊢
  dsimp only at hResolve ⊢
  split at hResolve
  · cases hResolve
  · rename_i hSome
    rw [if_neg hSome]
    rfl

theorem lookup_of_fixed
    (hFixed : Table.find? context.fixed head = some root)
    (rest : List String) :
    context.lookup (head :: rest) = root.descend rest := by
  simp only [lookup, hFixed]

theorem lookup_of_variable
    (hFixed : Table.find? context.fixed head = none)
    (hVariable : context.valueOf? head = some root)
    (rest : List String) :
    context.lookup (head :: rest) = root.descend rest := by
  unfold valueOf? at hVariable
  simp only [lookup, hFixed, hVariable]

/- The name of a scope leads into the scope as into an object. -/
theorem lookup_of_scope
    {scope : Entries}
    (hFixed : Table.find? context.fixed head = none)
    (hVariable : context.valueOf? head = none)
    (hScope : context.scope? head = some scope)
    (key : String)
    (rest : List String) :
    context.lookup (head :: key :: rest) =
      (Document.object scope).descend (key :: rest) := by
  unfold valueOf? at hVariable
  simp only [lookup, hFixed, hVariable, hScope]
  rfl

/-
  At the start, a value is found in the fixed scope: under a name, or
  behind the name of the scope itself.
-/
theorem lookup_of_start
    (hStart : start.assigned = [])
    (hLookup : start.lookup (pathSegments path) = some value) :
    (∃ head rest root,
        pathSegments path = head :: rest ∧
          Table.find? start.fixed head = some root ∧
          root.descend rest = some value) ∨
      ∃ key rest,
        pathSegments path = "context" :: key :: rest ∧
          Table.find? start.fixed "context" = none ∧
          (Document.object start.fixed).descend (key :: rest) =
            some value := by
  cases hPath : pathSegments path with
  | nil =>
      rw [hPath] at hLookup
      cases hLookup
  | cons head rest =>
      rw [hPath] at hLookup
      cases hFixed : Table.find? start.fixed head with
      | some root =>
          rw [lookup_of_fixed hFixed] at hLookup
          exact Or.inl ⟨head, rest, root, rfl, hFixed, hLookup⟩
      | none =>
          simp only [lookup, hFixed, scope?, hStart] at hLookup
          split_ifs at hLookup with hVariables hContext
          · cases rest <;> cases hLookup
          · subst hContext
            cases rest with
            | nil => cases hLookup
            | cons key rest =>
                exact Or.inr ⟨key, rest, rfl, hFixed, hLookup⟩
          · cases hLookup

------------------------------------------------------------
-- Paths That Resolve At The Start
------------------------------------------------------------

/-
  A path that resolves at the start names the same value later, unless it
  begins with the name of the fixed scope and leads elsewhere in a variable
  of this name.
-/
theorem resolve_kept_iff
    (hStart : start.assigned = [])
    (hFixed : later.fixed = start.fixed)
    (hContext : Table.find? start.fixed "context" = none)
    (hResolve : start.resolve path = some value) :
    later.resolve path = some value ↔
      ∀ rest root,
        pathSegments path = "context" :: rest →
          later.valueOf? "context" = some root →
            root.descend rest = some value := by
  have hLookup := hResolve
  rw [resolve_eq_lookup hResolve] at hLookup
  rw [resolve_eq_lookup hResolve]
  rcases lookup_of_start hStart hLookup with
    ⟨head, rest, root, hPath, hFind, hDescend⟩ |
      ⟨key, rest, hPath, _, hDescend⟩
  · have hNe : head ≠ "context" := by
      rintro rfl
      rw [hContext] at hFind
      cases hFind
    rw [← hFixed] at hFind
    rw [hPath, lookup_of_fixed hFind]
    refine iff_of_true hDescend ?_
    intro others other hOther
    rw [List.cons.injEq] at hOther
    exact absurd hOther.1 hNe
  · rw [← hFixed] at hContext hDescend
    rw [hPath]
    cases hVariable : later.valueOf? "context" with
    | none =>
        rw [lookup_of_scope hContext hVariable rfl]
        refine iff_of_true hDescend ?_
        intro _ _ _ hOther
        cases hOther
    | some root =>
        rw [lookup_of_variable hContext hVariable]
        constructor
        · intro hRoot others other hOther hSame
          cases hOther
          cases hSame
          exact hRoot
        · intro hAll
          exact hAll _ root rfl rfl

------------------------------------------------------------
-- Paths Into A Variable
------------------------------------------------------------

/- The path to a variable by way of the scope of variables. -/
def variablePath
    (name : String) :
    String :=
  "variables." ++ name

/- The path to a part of a variable. -/
def partPath
    (name path : String) :
    String :=
  variablePath name ++ "." ++ path

theorem trimChars_of_trim
    (hTrimmed : Text.trim path = path) :
    Text.trimChars path.toList = path.toList := by
  rw [← String.toList_inj] at hTrimmed
  simpa [Text.trim] using hTrimmed

theorem pathSegments_variablePath
    (hName : '.' ∉ name.toList)
    (hTrimmed : Text.trim name = name) :
    pathSegments (variablePath name) = ["variables", name] := by
  have hChars :
      (variablePath name).toList =
        'v' :: "ariables".toList ++ '.' :: name.toList := by
    simp [variablePath]
  unfold pathSegments Text.trim Text.splitOn
  rw [hChars, String.toList_ofList,
    Text.trimChars_append rfl rfl (trimChars_of_trim hTrimmed),
    Text.splitChars_append (by decide),
    Text.splitChars_of_not_mem hName]
  simp

theorem pathSegments_partPath
    (hName : '.' ∉ name.toList)
    (hTrimmed : Text.trim path = path) :
    pathSegments (partPath name path) =
      "variables" :: name :: Text.splitOn '.' path := by
  have hChars :
      (partPath name path).toList =
        'v' :: ("ariables.".toList ++ name.toList) ++
          '.' :: path.toList := by
    simp [partPath, variablePath]
  have hParts :
      'v' :: ("ariables.".toList ++ name.toList) ++
          '.' :: path.toList =
        "variables".toList ++
          '.' :: (name.toList ++ '.' :: path.toList) := by
    simp
  unfold pathSegments Text.trim Text.splitOn
  rw [hChars, String.toList_ofList,
    Text.trimChars_append rfl rfl (trimChars_of_trim hTrimmed),
    hParts, Text.splitChars_append (by decide),
    Text.splitChars_append hName]
  simp

/-
  Behind the name of the variables, a variable of this name comes first.
-/
theorem lookup_variables_iff
    (hFixed : Table.find? context.fixed "variables" = none)
    (hValue : context.valueOf? name = some value)
    (rest : List String) :
    context.lookup ("variables" :: name :: rest) =
        value.descend rest ↔
      ∀ root,
        context.valueOf? "variables" = some root →
          root.descend (name :: rest) = value.descend rest := by
  cases hVariable : context.valueOf? "variables" with
  | none =>
      have hScope :
          (Document.object context.assigned).descend
              (name :: rest) =
            value.descend rest := by
        unfold valueOf? at hValue
        simp only [Document.descend, Document.step?, hValue]
      rw [lookup_of_scope hFixed hVariable rfl, hScope]
      refine iff_of_true rfl ?_
      intro _ hOther
      cases hOther
  | some root =>
      rw [lookup_of_variable hFixed hVariable]
      constructor
      · intro hRoot other hSame
        cases hSame
        exact hRoot
      · intro hAll
        exact hAll root rfl

/- A path with more than an empty segment is looked up. -/
theorem resolve_of_segments
    (hPath : pathSegments path ≠ [""])
    (context : Context) :
    context.resolve path = context.lookup (pathSegments path) := by
  unfold resolve
  dsimp only
  split
  · rename_i hEmpty
    rw [String.isEmpty_iff] at hEmpty
    rw [pathSegments, hEmpty] at hPath
    exact absurd rfl hPath
  · rfl

theorem resolve_variablePath_iff
    (hFixed : Table.find? context.fixed "variables" = none)
    (hValue : context.valueOf? name = some value)
    (hName : '.' ∉ name.toList)
    (hTrimmed : Text.trim name = name) :
    context.resolve (variablePath name) = some value ↔
      ∀ root,
        context.valueOf? "variables" = some root →
          root.descend [name] = some value := by
  have hPath := pathSegments_variablePath hName hTrimmed
  rw [resolve_of_segments (by simp [hPath]), hPath]
  exact lookup_variables_iff hFixed hValue []

theorem resolve_partPath_iff
    (hFixed : Table.find? context.fixed "variables" = none)
    (hValue : context.valueOf? name = some value)
    (hName : '.' ∉ name.toList)
    (hTrimmed : Text.trim path = path) :
    context.resolve (partPath name path) =
        value.descend (Text.splitOn '.' path) ↔
      ∀ root,
        context.valueOf? "variables" = some root →
          root.descend (name :: Text.splitOn '.' path) =
            value.descend (Text.splitOn '.' path) := by
  have hPath := pathSegments_partPath hName hTrimmed
  rw [resolve_of_segments (by simp [hPath]), hPath]
  exact lookup_variables_iff hFixed hValue _

------------------------------------------------------------
-- The Names Of A Run
------------------------------------------------------------

/- What the paths of a run name after variables were set. -/
structure KeepsNames
    (start : Context)
    (writes : List (String × Document)) : Prop where
  current :
    ∀ name,
      (start.setAll writes).valueOf? name =
        lastWritten? writes name
  /-
    A path that resolved at the start names the same value, unless a
    variable that is called like the fixed scope leads elsewhere.
  -/
  kept_iff :
    ∀ path value,
      start.resolve path = some value →
        ((start.setAll writes).resolve path = some value ↔
          ∀ rest root,
            pathSegments path = "context" :: rest →
              lastWritten? writes "context" = some root →
                root.descend rest = some value)
  kept :
    (∀ write ∈ writes, write.1 ≠ "context") →
      ∀ path value,
        start.resolve path = some value →
          (start.setAll writes).resolve path = some value
  /-
    A path by way of the variables leads into the variable, unless one that
    is called like their scope leads elsewhere.
  -/
  whole_iff :
    ∀ name value,
      lastWritten? writes name = some value →
        '.' ∉ name.toList →
          Text.trim name = name →
            ((start.setAll writes).resolve (variablePath name) =
                some value ↔
              ∀ root,
                lastWritten? writes "variables" = some root →
                  root.descend [name] = some value)
  part_iff :
    ∀ name path value,
      lastWritten? writes name = some value →
        '.' ∉ name.toList →
          Text.trim path = path →
            ((start.setAll writes).resolve (partPath name path) =
                value.descend (Text.splitOn '.' path) ↔
              ∀ root,
                lastWritten? writes "variables" = some root →
                  root.descend (name :: Text.splitOn '.' path) =
                    value.descend (Text.splitOn '.' path))
  part :
    (∀ write ∈ writes, write.1 ≠ "variables") →
      ∀ name path value,
        lastWritten? writes name = some value →
          '.' ∉ name.toList →
            Text.trim path = path →
              (start.setAll writes).resolve (partPath name path) =
                value.descend (Text.splitOn '.' path)

/-
  A context without variables, whose fixed scope has no name of a scope.
-/
structure IsFresh
    (start : Context) : Prop where
  assigned_eq : start.assigned = []
  context_none : Table.find? start.fixed "context" = none
  variables_none : Table.find? start.fixed "variables" = none

theorem forRun_isFresh
    (rule : Rule)
    (input : Document)
    (trigger : TriggerKind)
    (startedAt : Timestamp) :
    (forRun rule input trigger startedAt).IsFresh where
  assigned_eq := rfl
  context_none := by
    simp [forRun, ofFixed, Table.ofList, Table.find?_insert,
      Table.find?]
  variables_none := by
    simp [forRun, ofFixed, Table.ofList, Table.find?_insert,
      Table.find?]

namespace IsFresh

theorem valueOf?_setAll
    (hFresh : start.IsFresh)
    (writes : List (String × Document))
    (name : String) :
    (start.setAll writes).valueOf? name =
      lastWritten? writes name :=
  Context.valueOf?_setAll hFresh.assigned_eq writes name

theorem variables_setAll
    (hFresh : start.IsFresh)
    (writes : List (String × Document)) :
    Table.find? (start.setAll writes).fixed "variables" =
      none := by
  rw [fixed_setAll]
  exact hFresh.variables_none

theorem kept_iff
    (hFresh : start.IsFresh)
    (hResolve : start.resolve path = some value) :
    (start.setAll writes).resolve path = some value ↔
      ∀ rest root,
        pathSegments path = "context" :: rest →
          lastWritten? writes "context" = some root →
            root.descend rest = some value := by
  rw [resolve_kept_iff hFresh.assigned_eq
    (fixed_setAll start writes) hFresh.context_none hResolve]
  simp only [hFresh.valueOf?_setAll]

theorem whole_iff
    (hFresh : start.IsFresh)
    (hValue : lastWritten? writes name = some value)
    (hName : '.' ∉ name.toList)
    (hTrimmed : Text.trim name = name) :
    (start.setAll writes).resolve (variablePath name) =
        some value ↔
      ∀ root,
        lastWritten? writes "variables" = some root →
          root.descend [name] = some value := by
  rw [← hFresh.valueOf?_setAll] at hValue
  rw [resolve_variablePath_iff (hFresh.variables_setAll writes)
    hValue hName hTrimmed]
  simp only [hFresh.valueOf?_setAll]

theorem part_iff
    (hFresh : start.IsFresh)
    (hValue : lastWritten? writes name = some value)
    (hName : '.' ∉ name.toList)
    (hTrimmed : Text.trim path = path) :
    (start.setAll writes).resolve (partPath name path) =
        value.descend (Text.splitOn '.' path) ↔
      ∀ root,
        lastWritten? writes "variables" = some root →
          root.descend (name :: Text.splitOn '.' path) =
            value.descend (Text.splitOn '.' path) := by
  rw [← hFresh.valueOf?_setAll] at hValue
  rw [resolve_partPath_iff (hFresh.variables_setAll writes)
    hValue hName hTrimmed]
  simp only [hFresh.valueOf?_setAll]

end IsFresh

/- Whatever variables a run sets, and however often. -/
theorem setAll_keepsNames
    (rule : Rule)
    (input : Document)
    (trigger : TriggerKind)
    (startedAt : Timestamp)
    (writes : List (String × Document)) :
    (forRun rule input trigger startedAt).KeepsNames writes := by
  have hFresh := forRun_isFresh rule input trigger startedAt
  constructor
  · exact hFresh.valueOf?_setAll writes
  · intro path value hResolve
    exact hFresh.kept_iff hResolve
  · intro hUnnamed path value hResolve
    rw [hFresh.kept_iff hResolve, lastWritten?_eq_none hUnnamed]
    intro _ _ _ hOther
    cases hOther
  · intro name value hValue hName hTrimmed
    exact hFresh.whole_iff hValue hName hTrimmed
  · intro name path value hValue hName hTrimmed
    exact hFresh.part_iff hValue hName hTrimmed
  · intro hUnnamed name path value hValue hName hTrimmed
    rw [hFresh.part_iff hValue hName hTrimmed,
      lastWritten?_eq_none hUnnamed]
    intro _ hOther
    cases hOther

/- An order at the start of a run. -/
def orderStart : Context :=
  forRun (Rule.basic "order" "Order" .none)
    (.object [("amount", .integer 1)]) .manual default

/- A variable that is called like the fixed scope takes its place. -/
theorem orderStart_shadowed :
    orderStart.resolve "context.input.amount" =
        some (.integer 1) ∧
      (orderStart.setAll
          [("context",
            .object
              [("input",
                .object [("amount", .integer 2)])])]).resolve
          "context.input.amount" =
        some (.integer 2) ∧
      lastWritten?
          [("total", .integer 5), ("variables", .null)] "total" =
        some (.integer 5) ∧
      (orderStart.setAll
          [("total", .integer 5), ("variables", .null)]).resolve
          "variables.total" =
        none :=
  ⟨rfl, rfl, rfl, rfl⟩

end Context

end Automation
