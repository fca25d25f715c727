/-
  CommandLine — the arguments of a program, told apart and read from left to right.

  1. **Switches** — a switch has one spelling with two dashes and may take a value. The spelling may
     be cut short as long as no other switch begins the same, and may carry the value behind an
     equals sign; two dashes there leave the switch without a value. Every program also has the
     switches `-h` and `--help`.

  2. **Words** — each argument is a switch, an unknown switch or an operand. A dash alone, a
     negative number and whatever holds a space are operands unless they are switches, and so is
     everything behind two dashes.

  3. **Reading** — words are read in order. Asking for help ends the reading, and so does the first
     misuse of a switch. Unknown switches and operands that are too many are misuse as well, but
     come to light only at the end.
-/

import LinearProgram.Text.Digit

namespace LinearProgram.CommandLine

/-! ## Switches -/

/-- A switch of a program; `κ` tells its switches apart. -/
structure Switch (κ : Type) where
  key : κ
  /-- The spelling, with its two dashes. -/
  spelling : Text
  takesValue : Bool := false

/-- What a program can be told: its switches, and whether it takes an operand. -/
structure Usage (κ : Type) where
  switches : List (Switch κ)
  takesOperand : Bool := false

/-- Why a program is not run. -/
inductive Refusal where
  /-- It was asked for help. -/
  | help
  | misuse
deriving DecidableEq, Repr

/-- The status that a program ends with that is not run. -/
def Refusal.status : Refusal → Nat
  | help => 0
  | misuse => 2

/-! ## Words -/

/-- What an argument is. -/
inductive Word (κ : Type) where
  | operand (t : Text)
  /-- The two dashes in front of operands. -/
  | divider
  | switch (s : Switch κ) (value : Option Text)
  /-- The long spelling of the switch for help. -/
  | help (value : Option Text)
  /-- The short one, with what is written directly behind it, or behind its equals sign. -/
  | shortHelp (behind : Option Text)
  | unknown

/-- A spelling that an argument may be matched with, and what it stands for. -/
abbrev Meaning (κ : Type) := Text × (Option Text → Word κ)

/-- The long spellings of a program. -/
def Usage.meanings {κ : Type} (usage : Usage κ) : List (Meaning κ) :=
  ("--help".toList, Word.help) :: usage.switches.map fun s => (s.spelling, Word.switch s)

/-- A spelling and the value behind its equals sign, if it has one. -/
def cutValue (t : Text) : Text × Option Text :=
  match Text.cutAt? '=' t with
  | some (spelling, value) => (spelling, some value)
  | none => (t, none)

/-- A negative number without an exponent; a line feed at its end does not matter. -/
def isNegativeNumber (t : Text) : Bool :=
  let t := if t.getLast? = some '\n' then t.dropLast else t
  match t with
  | '-' :: digits =>
    match digits.dropWhile Text.isDecimal with
    | [] => ! digits.isEmpty
    | '.' :: fraction => ! fraction.isEmpty && fraction.all Text.isDecimal
    | _ => false
  | _ => false

/-- What an argument is that starts with a dash and is no switch. -/
def unmatched {κ : Type} (t : Text) : Word κ :=
  if isNegativeNumber t || t.contains ' ' then .operand t else .unknown

/-- What an argument that starts with two dashes is; it is misuse if it may be several switches. -/
def longWord {κ : Type} (usage : Usage κ) (t : Text) : Except Refusal (Word κ) :=
  match usage.meanings.lookup t with
  | some meaning => .ok (meaning none)
  | none =>
    match cutValue t with
    | (spelling, value) =>
      match usage.meanings.lookup spelling, value with
      | some meaning, some value => .ok (meaning (some value))
      | _, _ =>
        match usage.meanings.filter fun (s, _) => spelling.isPrefixOf s with
        | [(_, meaning)] => .ok (meaning value)
        | [] => .ok (unmatched t)
        | _ :: _ :: _ => .error .misuse

/-- What an argument is that no two dashes stand in front of. -/
def word {κ : Type} (usage : Usage κ) : Text → Except Refusal (Word κ)
  | ['-'] => .ok (.operand ['-'])
  | '-' :: '-' :: t => longWord usage ('-' :: '-' :: t)
  | ['-', 'h'] => .ok (.shortHelp none)
  | '-' :: 'h' :: '=' :: behind => .ok (.shortHelp (some behind))
  | '-' :: 'h' :: behind => .ok (.shortHelp (some behind))
  | '-' :: t => .ok (unmatched ('-' :: t))
  | t => .ok (.operand t)

/-- What the arguments are. -/
def words {κ : Type} (usage : Usage κ) : List Text → Except Refusal (List (Word κ))
  | [] => .ok []
  | t :: rest =>
    if t = ['-', '-'] then .ok (.divider :: rest.map .operand)
    else
      match word usage t with
      | .error refusal => .error refusal
      | .ok w =>
        match words usage rest with
        | .error refusal => .error refusal
        | .ok ws => .ok (w :: ws)

/-! ## Reading -/

/-- What the arguments say, one after the other. -/
inductive Said (κ : Type) where
  | operand (t : Text)
  /-- A switch, with its value if it takes one and has not lost it. -/
  | switch (key : κ) (value : Option Text)
  /-- Something that has no place. -/
  | excess
  /-- The end of the reading. -/
  | refused (refusal : Refusal)

/-- What comes of the short switch for help with something written directly behind it: that must be
    more short switches, of which only the one for help is known. -/
def helpWith : Option Text → Refusal
  | none => .help
  | some behind => if behind ≠ [] ∧ behind.all (· = 'h') then .help else .misuse

/-- The value that a switch has behind its equals sign. -/
def keptValue (value : Text) : Option Text := if value = ['-', '-'] then none else some value

/-- How it stands with the operand. -/
inductive Stage where
  | wanted
  /-- It was the last word. -/
  | taken
  /-- No operand is wanted, and a divider has no place. -/
  | settled
deriving DecidableEq, Repr

/-- The stage behind a word that is neither the operand nor a divider. -/
def Stage.moved : Stage → Stage
  | wanted => wanted
  | _ => settled

/-- What the words say. While a switch waits for its value, that is the next word or nothing is. A
    divider has its place in front of the operand or directly behind it. -/
def said {κ : Type} : Stage → (waiting : Option κ) → List (Word κ) → List (Said κ)
  | stage, waiting, [] =>
    if waiting.isSome || stage = .wanted then [.refused .misuse] else []
  | stage, some key, .operand t :: rest => .switch key (some t) :: said stage.moved none rest
  | _, some _, _ :: _ => [.refused .misuse]
  | .wanted, none, .operand t :: rest => .operand t :: said .taken none rest
  | _, none, .operand _ :: rest => .excess :: said .settled none rest
  | .settled, none, .divider :: rest => .excess :: said .settled none rest
  | stage, none, .divider :: rest => said stage.moved none rest
  | stage, none, .switch s value :: rest =>
    match value, s.takesValue with
    | none, true => said stage.moved (some s.key) rest
    | some _, false => [.refused .misuse]
    | none, false => .switch s.key none :: said stage.moved none rest
    | some value, true => .switch s.key (keptValue value) :: said stage.moved none rest
  | _, none, .help none :: _ => [.refused .help]
  | _, none, .help (some _) :: _ => [.refused .misuse]
  | _, none, .shortHelp behind :: _ => [.refused (helpWith behind)]
  | stage, none, .unknown :: rest => .excess :: said stage.moved none rest

/-- Takes what was said, one after the other; `excess` tells whether anything had no place. -/
def take {κ σ : Type} (onOperand : Text → σ → σ)
    (onSwitch : κ → Option Text → σ → Except Refusal σ) :
    (excess : Bool) → σ → List (Said κ) → Except Refusal σ
  | excess, state, [] => if excess then .error .misuse else .ok state
  | excess, state, .operand t :: rest => take onOperand onSwitch excess (onOperand t state) rest
  | _, state, .excess :: rest => take onOperand onSwitch true state rest
  | _, _, .refused refusal :: _ => .error refusal
  | excess, state, .switch key value :: rest =>
    match onSwitch key value state with
    | .error refusal => .error refusal
    | .ok state => take onOperand onSwitch excess state rest

/-- Reads the arguments of a program. -/
def read {κ σ : Type} (usage : Usage κ) (onOperand : Text → σ → σ)
    (onSwitch : κ → Option Text → σ → Except Refusal σ) (state : σ) (arguments : List Text) :
    Except Refusal σ :=
  match words usage arguments with
  | .error refusal => .error refusal
  | .ok ws =>
    take onOperand onSwitch false state
      (said (if usage.takesOperand then .wanted else .settled) none ws)

end LinearProgram.CommandLine
