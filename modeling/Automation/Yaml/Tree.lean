import Automation.Yaml.Lexer

/-
  The tree of a YAML text.

  Blocks and brackets hold items or entries; an alias stands for the part
  that its name was given to.  What cannot be read is a broken part, and
  ends everything around it.

  Key definitions include:
    * `Yaml.Tree`
    * `Yaml.Stream.ofText`, the first document of a text
-/

namespace Automation

namespace Yaml

------------------------------------------------------------
-- Trees
------------------------------------------------------------

inductive Tree where
  | scalar
      (mark : Mark)
      (tag : Option String)
      (plain : Bool)
      (text : String)
  | sequence (mark : Mark) (items : List Tree)
  | mapping (mark : Mark) (entries : List (Tree × Tree))
  | broken (reason : String)
deriving Inhabited

/- Nothing at all where a part could stand. -/
def Tree.absent
    (mark : Mark) :
    Tree :=
  .scalar mark none true ""

/- The tokens still to be read, and the parts that have names. -/
structure Input where
  tokens : List Token
  named : List (String × Tree)
deriving Inhabited

namespace Input

/- The next token; there is none behind the end of the stream. -/
def next
    (input : Input) :
    Token :=
  input.tokens.headD ⟨.streamEnd, .start, .start⟩

def kind
    (input : Input) :
    TokenKind :=
  input.next.kind

def rest
    (input : Input) :
    Input :=
  { input with tokens := input.tokens.tail }

/- The problem with the next token, or the one that hides it. -/
def problem
    (input : Input)
    (reason : String)
    (context : Option (String × Option Mark)) :
    String :=
  match input.kind with
  | .unreadable problem => problem.message
  | _ => Problem.message ⟨reason, input.next.start, context⟩

end Input

/- A part, and the input behind it unless the part is broken. -/
abbrev Reading := Tree × Option Input

abbrev ItemsReading := List Tree × Option Input

abbrev EntriesReading := List (Tree × Tree) × Option Input

/- The input ends in the middle of some items. -/
def brokenItems
    (reason : String) :
    ItemsReading :=
  ([.broken reason], none)

/- The input ends in the middle of some entries. -/
def brokenEntries
    (reason : String) :
    EntriesReading :=
  ([(.broken reason, .broken reason)], none)

------------------------------------------------------------
-- Properties Of A Part
------------------------------------------------------------

/- The name and the tag in front of a part. -/
structure Properties where
  mark : Mark
  anchor : Option String
  tag : Option String
deriving Inhabited

/- Read a name and a tag, in either order. -/
def propertiesAt
    (input : Input) :
    Properties × Input :=
  let none : Properties := ⟨input.next.start, .none, .none⟩
  match input.kind, input.rest.kind with
  | .anchor name, .tag tag =>
      ({ none with anchor := name, tag := tag }, input.rest.rest)
  | .tag tag, .anchor name =>
      ({ none with anchor := name, tag := tag }, input.rest.rest)
  | .anchor name, _ => ({ none with anchor := name }, input.rest)
  | .tag tag, _ => ({ none with tag := tag }, input.rest)
  | _, _ => (none, input)

/- Give a part its name. -/
def Properties.bind
    (properties : Properties) :
    Reading → Reading
  | (tree, some input) =>
      match properties.anchor with
      | some name =>
          (tree, some { input with named := (name, tree) :: input.named })
      | none => (tree, some input)
  | reading => reading

------------------------------------------------------------
-- Parts
------------------------------------------------------------

/-
  Whether nothing stands before a token where an entry of a block goes on.
-/
def endsBlockEntry : TokenKind → Bool
  | .key | .value | .blockEnd => true
  | _ => false

/- Where a part can stand. -/
inductive Site where
  | block
  | entry
  | flow
deriving DecidableEq, Inhabited

/- What problems inside brackets are said to be part of. -/
def sequenceContext : String := "while parsing a flow sequence"

def mappingContext : String := "while parsing a flow mapping"

mutual

/-
  A part.  In the entry of a block a sequence needs no indentation of its
  own, and inside brackets there are no blocks.
-/
def node :
    Nat → Site → Input → Reading
  | 0, _, input =>
      (.broken (input.problem "recursion limit exceeded" none),
      none)
  | fuel + 1, site, input =>
      match input.kind with
      | .alias name =>
          match input.named.lookup name with
          | some tree => (tree, some input.rest)
          | none =>
              (.broken (Problem.message
                ⟨"unknown anchor", input.next.start, none⟩), none)
      | _ =>
          let (properties, input) := propertiesAt input
          let mark := properties.mark
          let sequence := fun ((items, after) : ItemsReading) =>
            properties.bind (.sequence mark items, after)
          let mapping := fun ((entries, after) : EntriesReading) =>
            properties.bind (.mapping mark entries, after)
          let start := input.next.start
          match input.kind, site with
          | .scalar plain text, _ =>
              properties.bind
                (.scalar mark properties.tag plain text, some input.rest)
          | .openBracket, _ =>
              sequence (flowItems fuel true start input.rest)
          | .openBrace, _ =>
              mapping (flowEntries fuel true start input.rest)
          | .dash, .entry => sequence (looseItems fuel input)
          | .blockSequence, .block | .blockSequence, .entry =>
              sequence (blockItems fuel start input.rest)
          | .blockMapping, .block | .blockMapping, .entry =>
              mapping (blockEntries fuel start input.rest)
          | kind, _ =>
              let named :=
                properties.anchor.isSome || properties.tag.isSome
              let readable :=
                match kind with
                | .unreadable _ => false
                | _ => true
              if named && readable then
                properties.bind
                  (.scalar mark properties.tag true "", some input)
              else
                let part :=
                  if site = .flow then "while parsing a flow node"
                  else "while parsing a block node"
                (.broken
                  (input.problem "did not find expected node content"
                    (some (part, some mark))), none)

/- The items of an indented sequence. -/
def blockItems :
    Nat → (start : Mark) → Input → ItemsReading
  | 0, _, input =>
      brokenItems (input.problem "recursion limit exceeded" none)
  | fuel + 1, start, input =>
      match input.kind with
      | .dash =>
          let after := input.rest
          let (item, after) :=
            match after.kind with
            | .dash | .blockEnd =>
                (Tree.absent input.next.finish, some after)
            | _ => node fuel .block after
          match after with
          | none => ([item], none)
          | some after =>
              let (items, last) := blockItems fuel start after
              (item :: items, last)
      | .blockEnd => ([], some input.rest)
      | _ =>
          brokenItems (input.problem "did not find expected '-' indicator"
            (some ("while parsing a block collection", some start)))

/- The items of a sequence that is not indented. -/
def looseItems :
    Nat → Input → ItemsReading
  | 0, input => brokenItems (input.problem "recursion limit exceeded" none)
  | fuel + 1, input =>
      match input.kind with
      | .dash =>
          let after := input.rest
          let (item, after) :=
            match after.kind with
            | .dash | .key | .value | .blockEnd =>
                (Tree.absent input.next.finish, some after)
            | _ => node fuel .block after
          match after with
          | none => ([item], none)
          | some after =>
              let (items, last) := looseItems fuel after
              (item :: items, last)
      | .unreadable problem => brokenItems problem.message
      | _ => ([], some input)

/- The entries of an indented mapping. -/
def blockEntries :
    Nat → (start : Mark) → Input → EntriesReading
  | 0, _, input =>
      brokenEntries (input.problem "recursion limit exceeded" none)
  | fuel + 1, start, input =>
      match input.kind with
      | .blockEnd => ([], some input.rest)
      | .key =>
          let after := input.rest
          let (key, after) :=
            if endsBlockEntry after.kind then
              (Tree.absent input.next.finish, some after)
            else node fuel .entry after
          match after with
          | none => ([(key, key)], none)
          | some after => blockValue fuel start key after
      | _ =>
          brokenEntries (input.problem "did not find expected key"
            (some ("while parsing a block mapping", some start)))

/- The value of an entry of a block, and the entries behind it. -/
def blockValue :
    Nat → (start : Mark) → (key : Tree) → Input → EntriesReading
  | 0, _, key, input =>
      ([(key, .broken (input.problem "recursion limit exceeded" none))],
        none)
  | fuel + 1, start, key, input =>
      let (value, after) : Reading :=
        match input.kind with
        | .value =>
            if endsBlockEntry input.rest.kind then
              (.absent input.next.finish, some input.rest)
            else node fuel .entry input.rest
        | .unreadable problem => (.broken problem.message, none)
        | _ => (.absent input.next.start, some input)
      match after with
      | none => ([(key, value)], none)
      | some after =>
          let (entries, last) := blockEntries fuel start after
          ((key, value) :: entries, last)

/- The items of a sequence in brackets. -/
def flowItems :
    Nat → (first : Bool) → (start : Mark) → Input → ItemsReading
  | 0, _, _, input =>
      brokenItems (input.problem "recursion limit exceeded" none)
  | fuel + 1, first, start, input =>
      let item (input : Input) : ItemsReading :=
        let (item, after) : Reading :=
          match input.kind with
          | .key => flowPair fuel input.next.start input.rest
          | _ => node fuel .flow input
        match after with
        | none => ([item], none)
        | some after =>
            let (items, last) := flowItems fuel false start after
            (item :: items, last)
      match input.kind, first with
      | .closeBracket, _ => ([], some input.rest)
      | _, true => item input
      | .comma, false =>
          match input.rest.kind with
          | .closeBracket => ([], some input.rest.rest)
          | _ => item input.rest
      | _, false =>
          brokenItems (input.problem "did not find expected ',' or ']'"
            (some (sequenceContext, some start)))

/- A mapping of a single entry that stands as an item in brackets. -/
def flowPair :
    Nat → (mark : Mark) → Input → Reading
  | 0, _, input =>
      (.broken (input.problem "recursion limit exceeded" none), none)
  | fuel + 1, mark, input =>
      let (key, after) : Reading :=
        match input.kind with
        | .value | .comma | .closeBracket =>
            (.absent input.next.finish, some input.rest)
        | _ => node fuel .flow input
      match after with
      | none => (.mapping mark [(key, key)], none)
      | some after =>
          let (value, after) := flowValue fuel .closeBracket after
          (.mapping mark [(key, value)], after)

/- The value of an entry in brackets. -/
def flowValue :
    Nat → (close : TokenKind) → Input → Reading
  | 0, _, input =>
      (.broken (input.problem "recursion limit exceeded" none), none)
  | fuel + 1, close, input =>
      match input.kind with
      | .value =>
          let after := input.rest
          if after.kind = .comma ∨ after.kind = close then
            (.absent after.next.start, some after)
          else node fuel .flow after
      | .unreadable problem => (.broken problem.message, none)
      | _ => (.absent input.next.start, some input)

/- The entries of a mapping in braces. -/
def flowEntries :
    Nat → (first : Bool) → (start : Mark) → Input → EntriesReading
  | 0, _, _, input =>
      brokenEntries (input.problem "recursion limit exceeded" none)
  | fuel + 1, first, start, input =>
      let entry (input : Input) : EntriesReading :=
        let keyed :=
          match input.kind with
          | .key => true
          | _ => false
        let (key, after) : Reading :=
          match input.kind, input.rest.kind with
          | .key, .value | .key, .comma | .key, .closeBrace =>
              (.absent input.rest.next.start, some input.rest)
          | .key, _ => node fuel .flow input.rest
          | _, _ => node fuel .flow input
        match after with
        | none => ([(key, key)], none)
        | some after =>
            let (value, after) : Reading :=
              if keyed then flowValue fuel .closeBrace after
              else
                match after.kind with
                | .unreadable problem => (.broken problem.message, none)
                | _ => (.absent after.next.start, some after)
            match after with
            | none => ([(key, value)], none)
            | some after =>
                let (entries, last) := flowEntries fuel false start after
                ((key, value) :: entries, last)
      match input.kind, first with
      | .closeBrace, _ => ([], some input.rest)
      | _, true => entry input
      | .comma, false =>
          match input.rest.kind with
          | .closeBrace => ([], some input.rest.rest)
          | _ => entry input.rest
      | _, false =>
          brokenEntries
            (input.problem "did not find expected ',' or '\x7d'"
              (some (mappingContext, some start)))

end

------------------------------------------------------------
-- Documents
------------------------------------------------------------

/- What follows the first document of a text. -/
inductive Remainder where
  | nothing
  | broken (reason : String)
  | more
deriving DecidableEq, Inhabited

/- The first document of a text, which may be missing, and what follows. -/
structure Stream where
  document : Tree
  remainder : Remainder
deriving Inhabited

namespace Stream

/- What follows a document. -/
def remainderOf
    (input : Input) :
    Remainder :=
  match input.kind with
  | .unreadable problem => .broken problem.message
  | _ =>
      let ended := input.tokens.dropWhile fun token =>
        token.kind = .documentEnd
      match ({ input with tokens := ended } : Input).kind with
      | .streamEnd => .nothing
      | _ => .more

def ofReading : Reading → Stream
  | (tree, none) => ⟨tree, .nothing⟩
  | (tree, some input) => ⟨tree, remainderOf input⟩

/- A document that ends before it holds anything. -/
def isEmptyDocument : TokenKind → Bool
  | .directive | .documentStart | .documentEnd | .streamEnd => true
  | _ => false

def ofInput
    (input : Input) :
    Stream :=
  let fuel := 4 * input.tokens.length + 8
  let stated := input.tokens.dropWhile fun token => token.kind = .directive
  let begun : Input := { input with tokens := stated }
  match begun.kind with
  | .documentStart =>
      if isEmptyDocument begun.rest.kind then
        ofReading (.absent begun.rest.next.start, some begun.rest)
      else ofReading (node fuel .block begun.rest)
  | .streamEnd => ⟨.absent begun.next.start, .nothing⟩
  | _ =>
      if stated.length < input.tokens.length then
        ofReading (.broken (begun.problem
          "did not find expected <document start>" none), none)
      else ofReading (node fuel .block begun)

def ofText
    (s : String) :
    Stream :=
  ofInput ⟨tokens s, []⟩

end Stream

end Yaml

end Automation
