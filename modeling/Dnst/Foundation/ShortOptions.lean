import Mathlib.Data.List.Basic

/-! # Command lines of short options

A lexer of command lines returns one item after the other, and behind an option a text when
it is asked for one. All that it can return is a tree, since it goes on differently behind a
text. A reader goes through such a tree from one state to the next.
-/

namespace Dnst.ShortOptions

/-! ## Readers -/

/-- What a lexer returns, up to the end. -/
inductive Lexed (Text : Type) where
  | finished
  | failed (reason : String)
  | value (text : Text) (rest : Lexed Text)
  | long (name : String)
  /-- Without a text it goes on with `rest`, with the text with `behind`. -/
  | short (name : Char) (rest : Lexed Text) (text : Except String Text) (behind : Lexed Text)

/-- Where a reader is behind an item. -/
inductive Step (State Result : Type) where
  | next (state : State)
  | stop (result : Result)

abbrev Outcome (State Result : Type) := Except String (Step State Result)

/-- How an option is dealt with, on its own or with a text. -/
inductive Handling (Text State Result : Type) where
  | flag (outcome : Outcome State Result)
  | text (take : Text → Outcome State Result)

structure Reader (Text State Result : Type) where
  short : Char → State → Handling Text State Result
  value : Text → State → Outcome State Result
  /-- Why a long option is refused. -/
  long : String → String

section Readers

variable {Text State Result : Type}

def follow (read : State → Outcome State Result) : Outcome State Result → Outcome State Result
  | .ok (.next state) => read state
  | .ok (.stop result) => .ok (.stop result)
  | .error reason => .error reason

def Reader.read (reader : Reader Text State Result) : Lexed Text → State → Outcome State Result
  | .finished, state => .ok (.next state)
  | .failed reason, _ => .error reason
  | .value text rest, state => follow (reader.read rest) (reader.value text state)
  | .long name, _ => .error (reader.long name)
  | .short name rest text behind, state =>
      match reader.short name state with
      | .flag outcome => follow (reader.read rest) outcome
      | .text take =>
          match text with
          | .ok text => follow (reader.read behind) (take text)
          | .error reason => .error reason

section Behind

variable {reader : Reader Text State Result} {name : Char} {state : State}

theorem Reader.read_flag {rest behind : Lexed Text} {text : Except String Text}
    {outcome : Outcome State Result} (handles : reader.short name state = .flag outcome) :
    reader.read (.short name rest text behind) state = follow (reader.read rest) outcome := by
  rw [Reader.read, handles]

theorem Reader.read_text {rest behind : Lexed Text} {text : Text}
    {take : Text → Outcome State Result} (handles : reader.short name state = .text take) :
    reader.read (.short name rest (.ok text) behind) state =
      follow (reader.read behind) (take text) := by
  rw [Reader.read, handles]

end Behind

/-! ## What is kept -/

/-- What holds of the states, and what of an early result. -/
def Step.Meets (holds : State → Prop) (returns : Result → Prop) : Step State Result → Prop
  | .next state => holds state
  | .stop result => returns result

def Keeps (holds : State → Prop) (returns : Result → Prop) (outcome : Outcome State Result) :
    Prop :=
  ∀ step, outcome = .ok step → step.Meets holds returns

def Handling.Keeps (holds : State → Prop) (returns : Result → Prop) :
    Handling Text State Result → Prop
  | .flag outcome => ShortOptions.Keeps holds returns outcome
  | .text take => ∀ text, ShortOptions.Keeps holds returns (take text)

/-- Every item keeps what holds. -/
structure Reader.Keeps (reader : Reader Text State Result) (holds : State → Prop)
    (returns : Result → Prop) : Prop where
  short : ∀ name state, holds state → (reader.short name state).Keeps holds returns
  value : ∀ text state, holds state → ShortOptions.Keeps holds returns (reader.value text state)

variable {reader : Reader Text State Result} {holds : State → Prop} {returns : Result → Prop}

theorem keeps_error (reason : String) :
    Keeps holds returns (.error reason : Outcome State Result) := by
  intro step impossible
  cases impossible

theorem keeps_next {state : State} (kept : holds state) :
    Keeps holds returns (.ok (.next state) : Outcome State Result) := by
  intro step same
  cases same
  exact kept

theorem keeps_stop {result : Result} (kept : returns result) :
    Keeps holds returns (.ok (.stop result) : Outcome State Result) := by
  intro step same
  cases same
  exact kept

theorem keeps_follow {read : State → Outcome State Result} {outcome : Outcome State Result}
    (first : Keeps holds returns outcome)
    (rest : ∀ state, holds state → Keeps holds returns (read state)) :
    Keeps holds returns (follow read outcome) := by
  cases outcome with
  | error reason => exact keeps_error reason
  | ok step =>
      cases step with
      | next state => exact rest state (first _ rfl)
      | stop result => exact keeps_stop (first _ rfl)

/-- What every item keeps, a whole command line keeps. -/
theorem Reader.Keeps.read (keeps : reader.Keeps holds returns) (lexed : Lexed Text)
    (state : State) (start : holds state) :
    ShortOptions.Keeps holds returns (reader.read lexed state) := by
  induction lexed generalizing state with
  | finished => exact keeps_next start
  | failed reason => exact keeps_error reason
  | value text rest induction =>
      exact keeps_follow (keeps.value text state start) induction
  | long name => exact keeps_error (reader.long name)
  | short name rest text behind restInduction behindInduction =>
      have handled := keeps.short name state start
      rw [Reader.read]
      cases handling : reader.short name state with
      | flag outcome =>
          rw [handling] at handled
          exact keeps_follow handled restInduction
      | text take =>
          rw [handling] at handled
          cases text with
          | error reason => exact keeps_error reason
          | ok text => exact keeps_follow (handled text) behindInduction

/-! ## What stands on the command line -/

inductive Item (Text : Type) where
  | option (name : Char) (text : Option Text)
  | value (text : Text)

/-- The items of a command line, by which options have a text. -/
inductive Spells : Lexed Text → List (Item Text) → Prop
  | finished : Spells .finished []
  | value {text rest items} : Spells rest items → Spells (.value text rest) (.value text :: items)
  | flag {name rest text behind items} : Spells rest items →
      Spells (.short name rest text behind) (.option name none :: items)
  | text {name rest text behind items} : Spells behind items →
      Spells (.short name rest (.ok text) behind) (.option name (some text) :: items)

/-- The reader goes on in another state behind an item. -/
inductive Reader.Passes (reader : Reader Text State Result) :
    Item Text → State → State → Prop
  | value {text state after} : reader.value text state = .ok (.next after) →
      Passes reader (.value text) state after
  | flag {name state after} : reader.short name state = .flag (.ok (.next after)) →
      Passes reader (.option name none) state after
  | text {name text take state after} : reader.short name state = .text take →
      take text = .ok (.next after) → Passes reader (.option name (some text)) state after

inductive Reader.PassesAll (reader : Reader Text State Result) :
    List (Item Text) → State → State → Prop
  | nil {state} : PassesAll reader [] state state
  | cons {item items state middle after} : reader.Passes item state middle →
      PassesAll reader items middle after → PassesAll reader (item :: items) state after

theorem follow_eq_next {read : State → Outcome State Result} {outcome : Outcome State Result}
    {after : State} : follow read outcome = .ok (.next after) ↔
      ∃ middle, outcome = .ok (.next middle) ∧ read middle = .ok (.next after) := by
  cases outcome with
  | error reason => simp [follow]
  | ok step => cases step <;> simp [follow]

/-- A command line is read up to its end exactly when all of its items are. -/
theorem read_eq_next_iff {lexed : Lexed Text} {state after : State} :
    reader.read lexed state = .ok (.next after) ↔
      ∃ items, Spells lexed items ∧ reader.PassesAll items state after := by
  constructor
  · intro reads
    induction lexed generalizing state with
    | finished =>
        cases reads
        exact ⟨[], .finished, .nil⟩
    | failed reason => cases reads
    | value text rest induction =>
        rcases follow_eq_next.mp reads with ⟨middle, first, reads⟩
        rcases induction reads with ⟨items, spells, passes⟩
        exact ⟨_, .value spells, .cons (.value first) passes⟩
    | long name => cases reads
    | short name rest text behind restInduction behindInduction =>
        rw [Reader.read] at reads
        cases handling : reader.short name state with
        | flag outcome =>
            rw [handling] at reads
            rcases follow_eq_next.mp reads with ⟨middle, first, reads⟩
            rcases restInduction reads with ⟨items, spells, passes⟩
            exact ⟨_, .flag spells, .cons (.flag (handling.trans (first ▸ rfl))) passes⟩
        | text take =>
            rw [handling] at reads
            cases text with
            | error reason => cases reads
            | ok text =>
                rcases follow_eq_next.mp reads with ⟨middle, first, reads⟩
                rcases behindInduction reads with ⟨items, spells, passes⟩
                exact ⟨_, .text spells, .cons (.text handling first) passes⟩
  · rintro ⟨items, spells, passes⟩
    induction spells generalizing state with
    | finished =>
        cases passes
        rfl
    | value spells induction =>
        cases passes with
        | cons first passes =>
            cases first with
            | value first => exact follow_eq_next.mpr ⟨_, first, induction passes⟩
    | flag spells induction =>
        cases passes with
        | cons first passes =>
            cases first with
            | flag first =>
                rw [Reader.read_flag first]
                exact follow_eq_next.mpr ⟨_, rfl, induction passes⟩
    | text spells induction =>
        cases passes with
        | cons first passes =>
            cases first with
            | text handling first =>
                rw [Reader.read_text handling]
                exact follow_eq_next.mpr ⟨_, first, induction passes⟩

theorem Reader.PassesAll.append {items others : List (Item Text)} {state middle after : State}
    (first : reader.PassesAll items state middle) (second : reader.PassesAll others middle after) :
    reader.PassesAll (items ++ others) state after := by
  induction first with
  | nil => exact second
  | cons passes _ induction => exact .cons passes (induction second)

end Readers

/-! ## Writing a command line -/

section Writing

variable {Text : Type}

/-- Nothing but values. -/
def values : List Text → Lexed Text
  | [] => .finished
  | text :: texts => .value text (values texts)

/-- How a lexer reads options that stand apart, and values behind a terminator. -/
structure Lexes (lex : List Text → Lexed Text) (dash : Char → Text) (terminator : Text) :
    Prop where
  terminator : ∀ texts, lex (terminator :: texts) = values texts
  option : ∀ name texts, name ≠ '-' → ∃ missing,
    lex (dash name :: texts) = .short name (lex texts)
      (texts.head?.elim (.error missing) .ok) (lex texts.tail)

/-- Options with their texts, and values behind them. -/
def commandLine (dash : Char → Text) (terminator : Text) (options : List (Char × Option Text))
    (texts : List Text) : List Text :=
  options.flatMap (fun option => dash option.1 :: option.2.toList) ++ terminator :: texts

def optionItems (options : List (Char × Option Text)) : List (Item Text) :=
  options.map fun option => .option option.1 option.2

theorem spells_values (texts : List Text) : Spells (values texts) (texts.map .value) := by
  induction texts with
  | nil => exact .finished
  | cons text texts induction => exact .value induction

theorem spells_commandLine {lex : List Text → Lexed Text} {dash : Char → Text}
    {terminator : Text} (lexes : Lexes lex dash terminator)
    {options : List (Char × Option Text)} (named : ∀ option ∈ options, option.1 ≠ '-')
    (texts : List Text) :
    Spells (lex (commandLine dash terminator options texts))
      (optionItems options ++ texts.map .value) := by
  induction options with
  | nil =>
      change Spells (lex (terminator :: texts)) _
      rw [lexes.terminator]
      exact spells_values texts
  | cons option options induction =>
      rcases option with ⟨name, text⟩
      have rest := induction fun other member => named other (List.mem_cons_of_mem _ member)
      have isNamed := named _ List.mem_cons_self
      cases text with
      | none =>
          rcases lexes.option name (commandLine dash terminator options texts) isNamed with
            ⟨missing, reads⟩
          change Spells (lex (dash name :: commandLine dash terminator options texts)) _
          rw [reads]
          exact .flag rest
      | some text =>
          rcases lexes.option name (text :: commandLine dash terminator options texts)
            isNamed with ⟨missing, reads⟩
          change Spells (lex (dash name :: text :: commandLine dash terminator options texts)) _
          rw [reads]
          exact .text rest

/-! ## What options lead to -/

variable {State Result : Type} {reader : Reader Text State Result}

/-- Some options lead from one state to the other. -/
def Reader.Reaches (reader : Reader Text State Result) (state after : State) : Prop :=
  ∃ options : List (Char × Option Text), (∀ option ∈ options, option.1 ≠ '-') ∧
    reader.PassesAll (optionItems options) state after

theorem Reader.Reaches.refl (state : State) : reader.Reaches state state :=
  ⟨[], (by simp), .nil⟩

theorem Reader.Reaches.trans {state middle after : State} (first : reader.Reaches state middle)
    (second : reader.Reaches middle after) : reader.Reaches state after := by
  rcases first with ⟨options, named, passes⟩
  rcases second with ⟨others, othersNamed, othersPass⟩
  refine ⟨options ++ others, ?_, ?_⟩
  · intro option member
    exact (List.mem_append.mp member).elim (named option) (othersNamed option)
  · rw [optionItems, List.map_append]
    exact passes.append othersPass

theorem reaches_flag {name : Char} {state after : State} (isNamed : name ≠ '-')
    (handles : reader.short name state = .flag (.ok (.next after))) :
    reader.Reaches state after := by
  refine ⟨[(name, none)], ?_, .cons (.flag handles) .nil⟩
  intro option member
  rw [List.mem_singleton.mp member]
  exact isNamed

theorem reaches_text {name : Char} {state after : State} {take : Text → Outcome State Result}
    {text : Text} (isNamed : name ≠ '-') (handles : reader.short name state = .text take)
    (takes : take text = .ok (.next after)) : reader.Reaches state after := by
  refine ⟨[(name, some text)], ?_, .cons (.text handles takes) .nil⟩
  intro option member
  rw [List.mem_singleton.mp member]
  exact isNamed

/-- What options lead to and values behind them, a command line leads to. -/
theorem exists_commandLine {lex : List Text → Lexed Text} {dash : Char → Text}
    {terminator : Text} (lexes : Lexes lex dash terminator) {state middle after : State}
    {texts : List Text} (reaches : reader.Reaches state middle)
    (passes : reader.PassesAll (texts.map .value) middle after) :
    ∃ line, reader.read (lex line) state = .ok (.next after) := by
  rcases reaches with ⟨options, named, optionsPass⟩
  exact ⟨commandLine dash terminator options texts, read_eq_next_iff.mpr
    ⟨_, spells_commandLine lexes named texts, optionsPass.append passes⟩⟩

end Writing

end Dnst.ShortOptions
