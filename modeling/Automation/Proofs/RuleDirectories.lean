import Automation.CommandLine
import Automation.Proofs.SortedDocuments
import Mathlib.Data.List.Forall2
import Mathlib.Data.List.Induction
import Mathlib.Data.List.Perm.Basic

/-
  Rules from a directory, in whichever order it is listed.

  A directory has no order of its own, and its rules are put into a store
  one after the other.  The rule that was asked for comes last, so it is
  the one under its id.  Of the other rules with one id, the one that is
  listed last is stored.

  Key definitions include:
    * `Files.Relisted`, the same files in another order
    * `RuleStore.lastOf?`, the last rule under an id
    * `CommandLine.OneEach`, no two rules under one id
    * `CommandLine.Relistable`, a directory in all its orders

  Key theorems include:
    * `Table.eq_of_find?_eq`, tables with the same values
    * `RuleStore.ofRules_eq_iff`, lists of rules with one store
    * `CommandLine.relistable`, what depends on the order
-/

namespace Automation

------------------------------------------------------------
-- Tables With The Same Values
------------------------------------------------------------

namespace Table

variable {α : Type}
variable {table other : Table α}
variable {key : String}
variable {value : α}

theorem mem_iff_find?
    (hSorted : Sorted table) :
    (key, value) ∈ table ↔ find? table key = some value := by
  refine ⟨fun hEntry => ?_, mem_of_find?⟩
  induction table with
  | nil => cases hEntry
  | cons first rest ih =>
      rcases List.pairwise_cons.mp hSorted with ⟨hFirst, hRest⟩
      rcases List.mem_cons.mp hEntry with rfl | hLater
      · rw [find?_cons, if_pos rfl]
      · have hNe : key ≠ first.1 :=
          ne_of_gt (hFirst (key, value) hLater)
        rw [find?_cons, if_neg hNe]
        exact ih hRest hLater

theorem nodup_of_sorted
    (hSorted : Sorted table) :
    table.Nodup :=
  List.Pairwise.imp
    (fun hLess hSame => ne_of_lt hLess (congrArg Prod.fst hSame))
    hSorted

/- A table in order is known by its values. -/
theorem eq_of_find?_eq
    (hTable : Sorted table)
    (hOther : Sorted other)
    (hFind : ∀ key, find? table key = find? other key) :
    table = other := by
  have hPerm : table.Perm other := by
    rw [List.perm_ext_iff_of_nodup (nodup_of_sorted hTable)
      (nodup_of_sorted hOther)]
    rintro ⟨key, value⟩
    rw [mem_iff_find? hTable, mem_iff_find? hOther, hFind]
  refine hPerm.eq_of_pairwise ?_ hTable hOther
  intro _ _ _ _ hLess hMore
  exact absurd hMore (lt_asymm hLess)

end Table

------------------------------------------------------------
-- The Last Rule Under An Id
------------------------------------------------------------

namespace RuleStore

variable {rules others : List Rule}
variable {rule : Rule}
variable {id : String}

/- The last of the rules with an id. -/
def lastOf?
    (rules : List Rule)
    (id : String) :
    Option Rule :=
  rules.reverse.find? fun rule => rule.id = id

theorem lastOf?_concat
    (rules : List Rule)
    (rule : Rule)
    (id : String) :
    lastOf? (rules ++ [rule]) id =
      if id = rule.id then some rule else lastOf? rules id := by
  rw [lastOf?, List.reverse_append, List.reverse_singleton,
    List.singleton_append, List.find?_cons]
  by_cases hId : rule.id = id
  · simp [hId]
  · simp [hId, Ne.symm hId, lastOf?]

theorem mem_of_lastOf?
    (hLast : lastOf? rules id = some rule) :
    rule ∈ rules ∧ rule.id = id := by
  constructor
  · exact List.mem_reverse.mp (List.mem_of_find?_eq_some hLast)
  · simpa using List.find?_some hLast

theorem lastOf?_eq_none
    (hLast : lastOf? rules id = none)
    (hRule : rule ∈ rules) :
    rule.id ≠ id := by
  rw [lastOf?, List.find?_eq_none] at hLast
  simpa using hLast rule (List.mem_reverse.mpr hRule)

theorem ofRules_concat
    (rules : List Rule)
    (rule : Rule) :
    ofRules (rules ++ [rule]) = (ofRules rules).insert rule := by
  rw [ofRules, List.foldl_append]
  rfl

theorem find?_ofRules
    (rules : List Rule)
    (id : String) :
    Table.find? (ofRules rules) id = lastOf? rules id := by
  induction rules using List.reverseRecOn with
  | nil => rfl
  | append_singleton rules rule ih =>
      rw [ofRules_concat, insert, Table.find?_insert, ih,
        lastOf?_concat]

theorem sorted_ofRules
    (rules : List Rule) :
    Table.Sorted (ofRules rules) := by
  induction rules using List.reverseRecOn with
  | nil => exact .nil
  | append_singleton rules rule ih =>
      rw [ofRules_concat]
      exact Table.sorted_insert ih rule.id rule

/- Two lists make the same store if their last rules are the same. -/
theorem ofRules_eq_iff :
    ofRules rules = ofRules others ↔
      ∀ id, lastOf? rules id = lastOf? others id := by
  constructor
  · intro hStore id
    rw [← find?_ofRules, ← find?_ofRules, hStore]
  · intro hLast
    refine Table.eq_of_find?_eq (sorted_ofRules rules)
      (sorted_ofRules others) fun id => ?_
    rw [find?_ofRules, find?_ofRules, hLast]

/- Other rules with the id of the last one are of no account. -/
theorem ofRules_filter_concat
    (rules : List Rule)
    (rule : Rule) :
    ofRules ((rules.filter fun other => other.id ≠ rule.id) ++
        [rule]) =
      ofRules (rules ++ [rule]) := by
  rw [ofRules_eq_iff]
  intro id
  rw [lastOf?_concat, lastOf?_concat]
  by_cases hId : id = rule.id
  · rw [if_pos hId, if_pos hId]
  · rw [if_neg hId, if_neg hId, lastOf?, lastOf?,
      ← List.filter_reverse, List.find?_filter]
    congr 1
    funext other
    by_cases hOther : other.id = id <;> simp [hOther, hId]

end RuleStore

------------------------------------------------------------
-- Listings
------------------------------------------------------------

/- The same files, and the names in a directory in any order. -/
structure Files.Relisted
    (files other : Files) : Prop where
  read_eq : other.read = files.read
  names :
    ∀ directory,
      Option.Rel List.Perm (other.names? directory)
        (files.names? directory)

namespace Files

/- The names of one directory listed in another order. -/
def relist
    (files : Files)
    (directory : String)
    (names : List String) :
    Files where
  read := files.read
  names? := fun path =>
    if path = directory then some names else files.names? path

theorem relisted_relist
    {files : Files}
    {directory : String}
    {names others : List String}
    (hNames : files.names? directory = some names)
    (hPerm : others.Perm names) :
    files.Relisted (files.relist directory others) where
  read_eq := rfl
  names path := by
    rw [relist]
    dsimp only
    split
    · rename_i hPath
      rw [hPath, hNames]
      exact .some hPerm
    · cases files.names? path with
      | none => exact .none
      | some names => exact .some (.refl names)

end Files

namespace CommandLine

variable {files other : Files}
variable {path directory : String}
variable {rule : Rule}
variable {rules others : List Rule}

/- Only the texts of files have a part in how a rule is loaded. -/
theorem loadRule_congr
    (hRead : other.read = files.read)
    (path : String) :
    loadRule other path = loadRule files path := by
  rw [loadRule, loadRule, hRead]

theorem loadPayload_congr
    (hRead : other.read = files.read)
    (source : PayloadSource) :
    loadPayload other source = loadPayload files source := by
  cases source with
  | nothing => rfl
  | text json => rfl
  | file path => rw [loadPayload, loadPayload, hRead]

theorem settingsIn_congr
    (hRead : other.read = files.read)
    (environment : Environment) :
    settingsIn other environment = settingsIn files environment := by
  rw [settingsIn, settingsIn, hRead]

theorem bind_eq_ok_iff
    {α β ε : Type}
    {first : Except ε α}
    {next : α → Except ε β}
    {b : β} :
    first >>= next = .ok b ↔ ∃ a, first = .ok a ∧ next a = .ok b := by
  cases first with
  | error fault => simp [bind, Except.bind]
  | ok a => simp [bind, Except.bind]

theorem orFail_eq_ok_iff
    {α ε : Type}
    {message : String}
    {cause : ε → String}
    {result : Except ε α}
    {a : α} :
    orFail message cause result = .ok a ↔ result = .ok a := by
  cases result <;> simp [orFail]

/- A rule is checked before it is handed on. -/
theorem validate_of_parseRule
    {isJson : Bool}
    {text : String}
    (hParse : parseRule isJson text = .ok rule) :
    rule.validate = .ok () := by
  unfold parseRule at hParse
  cases isJson <;>
    simp only [Bool.false_eq_true, if_false, if_true,
      bind_eq_ok_iff, orFail_eq_ok_iff, pure, Except.pure,
      Except.ok.injEq] at hParse
  all_goals
    rcases hParse with ⟨read, -, _, hValid, rfl⟩
    exact hValid

theorem validate_of_loadRule
    (hLoad : loadRule files path = .ok rule) :
    rule.validate = .ok () := by
  rw [loadRule, bind_eq_ok_iff] at hLoad
  rcases hLoad with ⟨text, -, hParse⟩
  split at hParse
  · rename_i read hRead
    cases hParse
    exact validate_of_parseRule hRead
  · cases hParse

/- A list of steps succeeds when each of the steps does. -/
theorem mapM_eq_ok_iff
    {α β ε : Type}
    {step : α → Except ε β}
    {xs : List α}
    {ys : List β} :
    xs.mapM step = .ok ys ↔
      List.Forall₂ (fun x y => step x = .ok y) xs ys := by
  induction xs generalizing ys with
  | nil => cases ys <;> simp [pure, Except.pure]
  | cons x xs ih =>
      rw [List.mapM_cons, List.forall₂_cons_left_iff]
      simp only [bind_eq_ok_iff, ih, pure, Except.pure,
        Except.ok.injEq]
      constructor
      · rintro ⟨first, hFirst, rest, hRest, rfl⟩
        exact ⟨first, rest, hFirst, hRest, rfl⟩
      · rintro ⟨first, rest, hFirst, hRest, rfl⟩
        exact ⟨first, hFirst, rest, hRest, rfl⟩

/- What is loaded from the files of a directory with some names. -/
def LoadsEach
    (files : Files)
    (directory : String)
    (names : List String)
    (rules : List Rule) : Prop :=
  List.Forall₂
    (fun name rule =>
      loadRule files (Files.join directory name) = .ok rule)
    (names.filter isRuleFile) rules

theorem loadDirectory_eq_ok_iff :
    loadDirectory files directory = .ok rules ↔
      ∃ names,
        files.names? directory = some names ∧
          LoadsEach files directory names rules := by
  rw [loadDirectory]
  cases hNames : files.names? directory with
  | none => simp
  | some names =>
      dsimp only
      rw [mapM_eq_ok_iff]
      simp [LoadsEach]

namespace LoadsEach

variable {name : String}
variable {names listed : List String}

theorem exists_name
    (hEach : LoadsEach files directory names rules)
    (hRule : rule ∈ rules) :
    ∃ name ∈ names,
      isRuleFile name ∧
        loadRule files (Files.join directory name) = .ok rule := by
  rcases List.mem_iff_getElem.mp hRule with ⟨i, hIndex, rfl⟩
  rcases List.forall₂_iff_get.mp hEach with ⟨hLength, hLoads⟩
  have hPlace : i < (names.filter isRuleFile).length :=
    hLength ▸ hIndex
  have hName :=
    List.mem_filter.mp
      (List.get_mem (names.filter isRuleFile) ⟨i, hPlace⟩)
  exact ⟨_, hName.1, hName.2, hLoads i hPlace hIndex⟩

/- Names in another order load the same rules in another order. -/
theorem relisted
    (hEach : LoadsEach files directory names rules)
    (hRead : other.read = files.read)
    (hPerm : listed.Perm names) :
    ∃ others,
      LoadsEach other directory listed others ∧
        others.Perm rules := by
  rcases List.perm_comp_forall₂ (hPerm.filter isRuleFile) hEach with
    ⟨others, hOthers, hRules⟩
  refine ⟨others, ?_, hRules⟩
  rw [LoadsEach]
  simp only [loadRule_congr hRead]
  exact hOthers

/- The rule of the last name is the last rule under its id. -/
theorem lastOf?_eq
    (hEach : LoadsEach files directory (names ++ [name]) rules)
    (hFile : isRuleFile name)
    (hLoad :
      loadRule files (Files.join directory name) = .ok rule) :
    RuleStore.lastOf? rules rule.id = some rule := by
  rw [LoadsEach, List.filter_append, List.filter_singleton, hFile,
    ← List.forall₂_reverse_iff, List.reverse_append] at hEach
  rcases List.forall₂_cons_left_iff.mp hEach with
    ⟨last, rest, hLast, -, hRules⟩
  have hSame : last = rule :=
    Except.ok.inj (hLast.symm.trans hLoad)
  rw [RuleStore.lastOf?, hRules, hSame, List.find?_cons]
  simp

end LoadsEach

theorem loadDirectory_relisted
    (hFiles : files.Relisted other)
    (hRules : loadDirectory files directory = .ok rules) :
    ∃ others,
      loadDirectory other directory = .ok others ∧
        others.Perm rules := by
  rcases loadDirectory_eq_ok_iff.mp hRules with
    ⟨names, hNames, hEach⟩
  have hRel := hFiles.names directory
  rw [hNames] at hRel
  generalize hListed : other.names? directory = listed? at hRel
  cases hRel with
  | some hPerm =>
      rcases hEach.relisted hFiles.read_eq hPerm with
        ⟨others, hOthers, hPermRules⟩
      exact
        ⟨others,
          loadDirectory_eq_ok_iff.mpr ⟨_, hListed, hOthers⟩,
          hPermRules⟩

/- Every rule of a directory can be the last one. -/
theorem exists_relisted_last
    (hRules : loadDirectory files directory = .ok rules)
    (hRule : rule ∈ rules) :
    ∃ other others,
      files.Relisted other ∧
        loadDirectory other directory = .ok others ∧
        RuleStore.lastOf? others rule.id = some rule := by
  rcases loadDirectory_eq_ok_iff.mp hRules with
    ⟨names, hNames, hEach⟩
  rcases hEach.exists_name hRule with
    ⟨name, hName, hFile, hLoad⟩
  have hPerm : (names.erase name ++ [name]).Perm names :=
    (List.perm_append_singleton name _).trans
      (List.perm_cons_erase hName).symm
  rcases hEach.relisted rfl hPerm with ⟨others, hOthers, -⟩
  exact
    ⟨files.relist directory (names.erase name ++ [name]), others,
      Files.relisted_relist hNames hPerm,
      loadDirectory_eq_ok_iff.mpr ⟨_, if_pos rfl, hOthers⟩,
      hOthers.lastOf?_eq hFile hLoad⟩

theorem validate_of_loadDirectory
    (hRules : loadDirectory files directory = .ok rules)
    (hRule : rule ∈ rules) :
    rule.validate = .ok () := by
  rcases loadDirectory_eq_ok_iff.mp hRules with ⟨names, -, hEach⟩
  rcases hEach.exists_name hRule with ⟨name, -, -, hLoad⟩
  exact validate_of_loadRule hLoad

------------------------------------------------------------
-- Stores
------------------------------------------------------------

/- A store with a rule, and the last ones of others with other ids. -/
structure Stocks
    (store : RuleStore)
    (rule : Rule)
    (rules : List Rule) : Prop where
  own : Table.find? store rule.id = some rule
  others :
    ∀ id,
      id ≠ rule.id →
        Table.find? store id = RuleStore.lastOf? rules id
  /- All are fit, and are stored under their own ids. -/
  fit :
    ∀ entry ∈ store,
      entry.2.id = entry.1 ∧ entry.2.validate = .ok ()
  /- It is filled with the others first, and with the rule at the end. -/
  filled :
    store =
      RuleStore.ofRules
        ((rules.filter fun other => other.id ≠ rule.id) ++ [rule])

theorem loadStore_eq
    (hRules : loadDirectory files directory = .ok rules)
    (rule : Rule) :
    loadStore files rule (some directory) =
      .ok (RuleStore.ofRules (rules ++ [rule])) := by
  rw [loadStore, RuleStore.ofRules_concat]
  dsimp only
  rw [hRules]
  rfl

theorem stocks_ofRules
    (hRule : loadRule files path = .ok rule)
    (hRules : loadDirectory files directory = .ok rules) :
    Stocks (RuleStore.ofRules (rules ++ [rule])) rule rules where
  own := by
    rw [RuleStore.find?_ofRules, RuleStore.lastOf?_concat,
      if_pos rfl]
  others id hId := by
    rw [RuleStore.find?_ofRules, RuleStore.lastOf?_concat,
      if_neg hId]
  fit entry hEntry := by
    rw [Table.mem_iff_find? (RuleStore.sorted_ofRules _),
      RuleStore.find?_ofRules] at hEntry
    rcases RuleStore.mem_of_lastOf? hEntry with ⟨hMem, hId⟩
    refine ⟨hId, ?_⟩
    rcases List.mem_append.mp hMem with hListed | hOwn
    · exact validate_of_loadDirectory hRules hListed
    · rw [List.mem_singleton.mp hOwn]
      exact validate_of_loadRule hRule
  filled := (RuleStore.ofRules_filter_concat rules rule).symm

/- Under all ids but that of the rule, the last rules are the same. -/
def SameLast
    (rule : Rule)
    (rules others : List Rule) : Prop :=
  ∀ id,
    id ≠ rule.id →
      RuleStore.lastOf? others id = RuleStore.lastOf? rules id

theorem ofRules_eq_iff_sameLast :
    RuleStore.ofRules (others ++ [rule]) =
        RuleStore.ofRules (rules ++ [rule]) ↔
      SameLast rule rules others := by
  rw [RuleStore.ofRules_eq_iff]
  simp only [RuleStore.lastOf?_concat]
  constructor
  · intro hLast id hId
    simpa only [if_neg hId] using hLast id
  · intro hLast id
    split
    · rfl
    · rename_i hId
      exact hLast id hId

/- No two rules under one id, that of the rule itself apart. -/
def OneEach
    (rule : Rule)
    (rules : List Rule) : Prop :=
  ∀ first ∈ rules,
    ∀ second ∈ rules,
      first.id = second.id → first.id ≠ rule.id → first = second

/- Then it does not matter which of the rules is the last one. -/
theorem sameLast_of_oneEach
    (hOne : OneEach rule rules)
    (hPerm : others.Perm rules) :
    SameLast rule rules others := by
  intro id hId
  cases hLast : RuleStore.lastOf? rules id with
  | none =>
      rw [RuleStore.lastOf?, List.find?_eq_none]
      intro other hOther
      have hMem : other ∈ rules :=
        hPerm.mem_iff.mp (List.mem_reverse.mp hOther)
      simpa using RuleStore.lastOf?_eq_none hLast hMem
  | some last =>
      rcases RuleStore.mem_of_lastOf? hLast with ⟨hMem, hOwn⟩
      cases hOther : RuleStore.lastOf? others id with
      | none =>
          exact absurd hOwn
            (RuleStore.lastOf?_eq_none hOther
              (hPerm.mem_iff.mpr hMem))
      | some other =>
          rcases RuleStore.mem_of_lastOf? hOther with
            ⟨hOtherMem, hOtherOwn⟩
          have hSame :=
            hOne other (hPerm.mem_iff.mp hOtherMem) last hMem
              (hOtherOwn.trans hOwn.symm) (hOtherOwn ▸ hId)
          rw [hSame]

------------------------------------------------------------
-- Commands
------------------------------------------------------------

/- Where a command finds the rule that it runs. -/
def Command.source? : Command → Option RuleSource
  | .run source _ _ => some source
  | .webhook source _ _ => some source
  | .validate _ => none

/- A command answers by the texts of files and the store it loads. -/
theorem answer_congr
    {source : RuleSource}
    {command : Command}
    (hSource : command.source? = some source)
    (hRead : other.read = files.read)
    (hRule : loadRule files source.rule = .ok rule)
    (hStore :
      loadStore other rule source.directory? =
        loadStore files rule source.directory?)
    (settings : Settings)
    (present : Nat)
    (stamp : Stamp)
    (patterns : PatternLibrary)
    (network : Webhook.Network) :
    answer ⟨other, settings, present, stamp, patterns, network⟩
        command =
      answer ⟨files, settings, present, stamp, patterns, network⟩
        command := by
  have hOther : loadRule other source.rule = .ok rule :=
    (loadRule_congr hRead source.rule).trans hRule
  cases command with
  | run asked payload trigger =>
      cases hSource
      rw [answer, answer]
      dsimp only
      rw [hRule, hOther]
      dsimp only [bind, Except.bind]
      rw [hStore, loadPayload_congr hRead]
      rfl
  | webhook asked payload token =>
      cases hSource
      rw [answer, answer]
      dsimp only
      rw [hRule, hOther]
      dsimp only [bind, Except.bind]
      rw [hStore, loadPayload_congr hRead]
      rfl
  | validate path => cases hSource

/- All commands that run a rule of a source leave the same behind. -/
def BehavesAlike
    (files other : Files)
    (source : RuleSource) : Prop :=
  ∀ environment present stamp patterns network arguments command,
    Request.ofArguments arguments = .command command →
      command.source? = some source →
        execute other environment present stamp patterns network
            arguments =
          execute files environment present stamp patterns network
            arguments

theorem behavesAlike_of_loadStore
    {source : RuleSource}
    (hRead : other.read = files.read)
    (hRule : loadRule files source.rule = .ok rule)
    (hStore :
      loadStore other rule source.directory? =
        loadStore files rule source.directory?) :
    BehavesAlike files other source := by
  intro environment present stamp patterns network arguments
    command hAsked hSource
  rw [execute, execute, hAsked]
  dsimp only
  rw [settingsIn_congr hRead,
    answer_congr hSource hRead hRule hStore]

------------------------------------------------------------
-- A Directory In All Its Orders
------------------------------------------------------------

/-
  What is the same in all orders of a directory that is loaded for a rule,
  and what is not.
-/
structure Relistable
    (files : Files)
    (path directory : String)
    (rule : Rule)
    (rules : List Rule) : Prop where
  stored :
    ∀ other,
      files.Relisted other →
        ∃ others store,
          loadRule other path = .ok rule ∧
            loadDirectory other directory = .ok others ∧
            others.Perm rules ∧
            loadStore other rule (some directory) = .ok store ∧
            Stocks store rule others
  /- The stores are the same just when the last rules are. -/
  same_iff :
    ∀ other others,
      files.Relisted other →
        loadDirectory other directory = .ok others →
          (loadStore other rule (some directory) =
              loadStore files rule (some directory) ↔
            SameLast rule rules others)
  behaves :
    ∀ other,
      files.Relisted other →
        loadStore other rule (some directory) =
            loadStore files rule (some directory) →
          BehavesAlike files other ⟨path, some directory⟩
  /- No order matters just when no two rules stand under one id. -/
  always_iff :
    (∀ other,
        files.Relisted other →
          loadStore other rule (some directory) =
            loadStore files rule (some directory)) ↔
      OneEach rule rules

theorem loadStore_eq_iff
    (hRules : loadDirectory files directory = .ok rules)
    (hOthers : loadDirectory other directory = .ok others) :
    loadStore other rule (some directory) =
        loadStore files rule (some directory) ↔
      SameLast rule rules others := by
  rw [loadStore_eq hRules, loadStore_eq hOthers,
    Except.ok.injEq, ofRules_eq_iff_sameLast]

/- A store that no order changes has one rule for each id. -/
theorem oneEach_of_loadStore_eq
    (hRules : loadDirectory files directory = .ok rules)
    (hAlways :
      ∀ other,
        files.Relisted other →
          loadStore other rule (some directory) =
            loadStore files rule (some directory)) :
    OneEach rule rules := by
  have hLast :
      ∀ last ∈ rules,
        last.id ≠ rule.id →
          RuleStore.lastOf? rules last.id = some last := by
    intro last hMem hId
    rcases exists_relisted_last hRules hMem with
      ⟨other, others, hFiles, hOthers, hOwn⟩
    have hSame :=
      (loadStore_eq_iff hRules hOthers).mp (hAlways other hFiles)
    rw [← hSame last.id hId, hOwn]
  intro first hFirst second hSecond hIds hId
  have hFound := hLast first hFirst hId
  rw [hIds, hLast second hSecond (hIds ▸ hId)] at hFound
  exact (Option.some.inj hFound).symm

theorem relistable
    (hRule : loadRule files path = .ok rule)
    (hRules : loadDirectory files directory = .ok rules) :
    Relistable files path directory rule rules where
  stored other hFiles := by
    rcases loadDirectory_relisted hFiles hRules with
      ⟨others, hOthers, hPerm⟩
    have hOther : loadRule other path = .ok rule :=
      (loadRule_congr hFiles.read_eq path).trans hRule
    exact
      ⟨others, _, hOther, hOthers, hPerm,
        loadStore_eq hOthers rule, stocks_ofRules hOther hOthers⟩
  same_iff _ _ _ hOthers := loadStore_eq_iff hRules hOthers
  behaves _ hFiles hStore :=
    behavesAlike_of_loadStore hFiles.read_eq hRule hStore
  always_iff := by
    refine ⟨oneEach_of_loadStore_eq hRules, ?_⟩
    intro hOne other hFiles
    rcases loadDirectory_relisted hFiles hRules with
      ⟨others, hOthers, hPerm⟩
    rw [loadStore_eq_iff hRules hOthers]
    exact sameLast_of_oneEach hOne hPerm

/- A rule, and a directory whose files have these names. -/
def shelf
    (names : List String) :
    Files :=
  { Files.ofTable
      [("main.yaml", "id: main\nname: Main\n"),
        ("rules/copy.yaml", "id: main\nname: Copy\n"),
        ("rules/first.yaml", "id: step\nname: First\n"),
        ("rules/second.yaml", "id: step\nname: Second\n")] with
    names? := fun directory =>
      if directory = "rules" then some names else none }

/- The ids of the rule and of those in the directory. -/
def shelvedIds?
    (files : Files) :
    Option (String × List String) := do
  let rule ← (loadRule files "main.yaml").toOption
  let rules ← (loadDirectory files "rules").toOption
  return (rule.id, rules.map (·.id))

/- The name of the rule that is stored under an id. -/
def shelvedName?
    (files : Files)
    (id : String) :
    Option String := do
  let rule ← (loadRule files "main.yaml").toOption
  let store ← (loadStore files rule (some "rules")).toOption
  let found ← Table.find? store id
  return found.name

theorem exists_of_shelvedIds?
    {id : String}
    {ids : List String}
    (hIds : shelvedIds? files = some (id, ids)) :
    ∃ rule rules,
      loadRule files "main.yaml" = .ok rule ∧
        loadDirectory files "rules" = .ok rules ∧
        rule.id = id ∧
        rules.map (·.id) = ids := by
  rw [shelvedIds?] at hIds
  cases hRule : loadRule files "main.yaml" with
  | error failure => simp [hRule, Except.toOption] at hIds
  | ok rule =>
      cases hRules : loadDirectory files "rules" with
      | error failure =>
          simp [hRule, hRules, Except.toOption] at hIds
      | ok rules =>
          simp only [hRule, hRules, Except.toOption,
            Option.bind_eq_bind, Option.bind_some, pure,
            Option.some.injEq, Prod.mk.injEq] at hIds
          exact ⟨rule, rules, rfl, rfl, hIds⟩

/- A directory with another rule under the id of the rule itself. -/
def copyShelf : Files := shelf ["copy.yaml", "first.yaml"]

theorem copyShelf_relistable :
    ∃ rule rules,
      loadRule copyShelf "main.yaml" = .ok rule ∧
        loadDirectory copyShelf "rules" = .ok rules ∧
        rule.id = "main" ∧
        rules.map (·.id) = ["main", "step"] ∧
        Relistable copyShelf "main.yaml" "rules" rule rules := by
  have hIds :
      shelvedIds? copyShelf = some ("main", ["main", "step"]) := by
    decide +kernel
  rcases exists_of_shelvedIds? hIds with
    ⟨rule, rules, hRule, hRules, hId, hOthers⟩
  exact
    ⟨rule, rules, hRule, hRules, hId, hOthers,
      relistable hRule hRules⟩

/- A directory with two rules under one id, in both orders. -/
def stepShelf : Files := shelf ["first.yaml", "second.yaml"]

def turnedShelf : Files :=
  stepShelf.relist "rules" ["second.yaml", "first.yaml"]

/- The order tells which of the two rules is stored. -/
theorem stepShelf_order_matters :
    stepShelf.Relisted turnedShelf ∧
      ∃ rule rules,
        loadRule stepShelf "main.yaml" = .ok rule ∧
          loadDirectory stepShelf "rules" = .ok rules ∧
          loadStore turnedShelf rule (some "rules") ≠
            loadStore stepShelf rule (some "rules") := by
  have hIds :
      shelvedIds? stepShelf = some ("main", ["step", "step"]) := by
    decide +kernel
  have hNames :
      shelvedName? turnedShelf "step" ≠
        shelvedName? stepShelf "step" := by
    decide +kernel
  have hFiles : stepShelf.Relisted turnedShelf :=
    Files.relisted_relist rfl
      (.swap "first.yaml" "second.yaml" [])
  rcases exists_of_shelvedIds? hIds with
    ⟨rule, rules, hRule, hRules, -⟩
  refine ⟨hFiles, rule, rules, hRule, hRules, fun hStore => ?_⟩
  rw [shelvedName?, shelvedName?, loadRule_congr hFiles.read_eq,
    hRule] at hNames
  refine hNames ?_
  simp only [Except.toOption, Option.bind_eq_bind,
    Option.bind_some, hStore]

end CommandLine

end Automation
