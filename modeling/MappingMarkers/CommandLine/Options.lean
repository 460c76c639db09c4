import MappingMarkers.Text.DigitTable
import MappingMarkers.Text.Quoted

/-!
Reading a row of command line arguments by a description of the options. Long options may be
shortened as long as they are told apart, a value stands after an equals sign or in the next
argument, and single-letter flags can share a hyphen. Everything after two hyphens by themselves is
no option.
-/

namespace MappingMarkers.CommandLine

open Text

/-- An option, known by `key`, with its names as they are written. The value of a flag is empty. -/
structure OptionSpec (Key : Type) where
  key : Key
  names : List Text
  takesValue : Bool := false
  required : Bool := false

/-- All names of the option, as messages show it. -/
def OptionSpec.label {Key : Type} (o : OptionSpec Key) : Text := joined ['/'] o.names

/-- An option that was recognised in an argument, by which name, and the value attached to it. The
value is `marked` when an equals sign stands before it. -/
structure Recognised (Key : Type) where
  option : OptionSpec Key
  name : Text
  attached : Option Text := none
  marked : Bool := false

/-- What an argument is taken for. -/
inductive Word (Key : Type) where
  | plain
  /-- The two hyphens after which there are no options. -/
  | hyphens
  | option (o : Recognised Key)
  /-- It looks like an option and is none. -/
  | unknown

/-- Each name of each option, with the option. -/
def named {Key : Type} (options : List (OptionSpec Key)) : List (Text × OptionSpec Key) :=
  options.flatMap fun o => o.names.map fun name => (name, o)

/-- Whether the text is a negative number: a hyphen and digits, with a point before the last ones if
it has one. A line feed at the end does not count. -/
def isNegativeNumber (t : Text) : Bool :=
  let isDigit (c : Char) : Bool := (digitValue? c).isSome
  let allDigits (ds : Text) : Bool := !ds.isEmpty && ds.all isDigit
  match t with
  | '-' :: body =>
      let body := if body.getLast? = some '\n' then body.dropLast else body
      allDigits body || allDigits ((body.dropWhile isDigit).drop 1) &&
        (body.dropWhile isDigit).head? == some '.'
  | _ => false

/-- The options that an argument can stand for, if it is not an option's exact name: the long
options that begin so, or the single-letter option with a value attached. -/
def candidates {Key : Type} (options : List (OptionSpec Key)) (t : Text) :
    List (Recognised Key) :=
  match t with
  | '-' :: '-' :: _ =>
      let (start, attached) :=
        match cutFirst? '=' t with
        | some (start, value) => (start, some value)
        | none => (t, none)
      (named options).filterMap fun (name, option) =>
        if start.isPrefixOf name then
          some { option, name, attached, marked := attached.isSome }
        else none
  | _ =>
      (named options).filterMap fun (name, option) =>
        if name = t.take 2 then some { option, name, attached := some (t.drop 2) }
        else if t.isPrefixOf name then some { option, name }
        else none

/-- What an argument is taken for; the message when it stands for several options. -/
def classify {Key : Type} (options : List (OptionSpec Key)) (t : Text) :
    Except Text (Word Key) :=
  if t.head? ≠ some '-' then .ok .plain
  else
    match (named options).lookup t with
    | some option => .ok (.option { option, name := t })
    | none =>
        if t.length = 1 then .ok .plain
        else
          let exact := (cutFirst? '=' t).bind fun (name, value) =>
            ((named options).lookup name).map fun option =>
              { option, name, attached := some value, marked := true }
          match exact, candidates options t with
          | some o, _ => .ok (.option o)
          | none, [o] => .ok (.option o)
          | none, [] =>
              if isNegativeNumber t || t.contains ' ' then .ok .plain else .ok .unknown
          | none, several =>
              .error ("ambiguous option: ".toList ++ t ++ " could match ".toList ++
                joined ", ".toList (several.map (·.name)))

/-- What the arguments are taken for, each with the argument itself. -/
def classifyAll {Key : Type} (options : List (OptionSpec Key)) :
    List Text → Except Text (List (Text × Word Key))
  | [] => .ok []
  | t :: ts =>
      if t = ['-', '-'] then .ok ((t, .hyphens) :: ts.map (·, .plain))
      else do
        let word ← classify options t
        let words ← classifyAll options ts
        return (t, word) :: words

/-- The arguments that a recognised option stands for: options with their values, an argument left
over, and how many of the following arguments are used up. -/
structure Taken (Key : Type) where
  values : List (Key × Text)
  extras : List Text := []
  used : Nat := 0

def Taken.after {Key : Type} (value : Key × Text) (t : Taken Key) : Taken Key :=
  { t with values := value :: t.values }

def argumentError {Key : Type} (o : OptionSpec Key) (message : Text) : Text :=
  "argument ".toList ++ o.label ++ ": ".toList ++ message

/-- The value of an option that has none attached: empty for a flag, else the next argument, which
is `next` if it can be a value. -/
def takeNext {Key : Type} (o : OptionSpec Key) (next : Option Text) : Except Text (Taken Key) :=
  if o.takesValue then
    match next with
    | some value => .ok { values := [(o.key, value)], used := 1 }
    | none => .error (argumentError o "expected one argument".toList)
  else .ok { values := [(o.key, [])] }

/-- Takes an option with an attached value. Behind a single-letter flag, what is attached are
further single-letter options. -/
def takeAttached {Key : Type} (options : List (OptionSpec Key)) (next : Option Text)
    (o : OptionSpec Key) (name : Text) (marked : Bool) : Text → Except Text (Taken Key)
  | [] =>
      if o.takesValue then .ok { values := [(o.key, [])] }
      else .error (argumentError o ("ignored explicit argument ".toList ++ quoted []))
  | c :: cs =>
      if o.takesValue then .ok { values := [(o.key, c :: cs)] }
      else if name[1]? = some '-' ∨ marked ∨ c = '-' then
        .error (argumentError o ("ignored explicit argument ".toList ++ quoted (c :: cs)))
      else
        match (named options).lookup ['-', c] with
        | none => .ok { values := [(o.key, [])], extras := ['-' :: c :: cs] }
        | some following =>
            (Taken.after (o.key, [])) <$>
              match cs with
              | [] => takeNext following next
              | '=' :: ds => takeAttached options next following ['-', c] true ds
              | d :: ds => takeAttached options next following ['-', c] false (d :: ds)

structure Sorted (Key : Type) where
  /-- The options in the order in which they are given, with their values. -/
  values : List (Key × Text) := []
  /-- What is no option and no option's value. -/
  extras : List Text := []
  /-- The command and its own arguments, where a command is expected. -/
  command : Option (List Text) := none

/-- Sorts arguments out. Where a command is expected, everything from the first argument that is no
option belongs to it. An option that `ends` the work is the last one that counts. -/
def sortOut {Key : Type} (options : List (OptionSpec Key)) (ends : Key → Bool)
    (expectsCommand : Bool) : List (Text × Word Key) → Except Text (Sorted Key)
  | [] => .ok {}
  | (_, .option o) :: words => do
      let next :=
        match words with
        | (value, .plain) :: _ => some value
        | _ => none
      let taken ←
        match o.attached with
        | none => takeNext o.option next
        | some value => takeAttached options next o.option o.name o.marked value
      if taken.values.any fun v => ends v.1 then return { values := taken.values }
      else
        let s ← sortOut options ends expectsCommand (words.drop taken.used)
        return { s with values := taken.values ++ s.values, extras := taken.extras ++ s.extras }
  | (t, word) :: words => do
      let startsCommand :=
        match word with
        | .plain => true
        | .hyphens => !words.isEmpty
        | _ => false
      if expectsCommand && startsCommand then return { command := some (t :: words.map (·.1)) }
      else
        let s ← sortOut options ends expectsCommand words
        return { s with extras := t :: s.extras }
termination_by words => words.length
decreasing_by
  · rw [List.length_drop, List.length_cons]
    omega
  · exact Nat.lt_succ_self _

/-- Sorts the arguments of a command line out; the message when they cannot be. -/
def readArguments {Key : Type} (options : List (OptionSpec Key)) (ends : Key → Bool)
    (expectsCommand : Bool) (args : List Text) : Except Text (Sorted Key) := do
  sortOut options ends expectsCommand (← classifyAll options args)

/-- The message about required options that are not given. -/
def missing? {Key : Type} [DecidableEq Key] (options : List (OptionSpec Key))
    (values : List (Key × Text)) : Option Text :=
  let absent := options.filter fun o => o.required && !values.any (·.1 = o.key)
  if absent.isEmpty then none
  else some ("the following arguments are required: ".toList ++
    joined ", ".toList (absent.map (·.label)))

end MappingMarkers.CommandLine
