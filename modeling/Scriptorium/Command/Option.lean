/-!
# Options of a command

How the words of a command are told apart into options and operands. An option has a long name after
two hyphens, and may have a short one of a letter after a single hyphen. Its value is attached, to a
long name by an equals sign and to a short one directly, or is the next word, whatever that is.
Short names can be joined. Two hyphens alone end the options.
-/

set_option autoImplicit false
set_option relaxedAutoImplicit false

namespace Scriptorium.Command

/-- Why the words of a command make no sense. -/
inductive UsageFault where
  | usage
  | noSuchOption
  | badOptionUsage
  | missingParameter
  | badParameter
  | unknownScript (name : String)
  deriving DecidableEq, Repr

/-- An option that a command knows. -/
structure OptionShape where
  long : List Char
  short : Option Char
  takesValue : Bool
  deriving DecidableEq, Repr

/-- An option that is given, with its value if it takes one. -/
structure GivenOption where
  long : List Char
  value : Option String
  deriving DecidableEq, Repr

/-- The options that a word gives, and whether the last of them takes the next word for its
value. -/
structure WordOptions where
  given : List GivenOption
  takesNext : Bool
  deriving DecidableEq, Repr

/-- The value of an option that nothing is attached to: the next word, which has to be there. -/
def withNext (long : List Char) (next : Option String) : Except UsageFault WordOptions :=
  match next with
  | some value => .ok ⟨[⟨long, some value⟩], true⟩
  | none => .error .badOptionUsage

/-- The options that joined short names give. -/
def shortOptions (known : List OptionShape) (next : Option String) :
    List Char → Except UsageFault WordOptions
  | [] => .ok ⟨[], false⟩
  | c :: rest =>
    match known.find? fun o ↦ o.short == some c with
    | none => .error .noSuchOption
    | some o =>
      if o.takesValue then
        if rest.isEmpty then withNext o.long next
        else .ok ⟨[⟨o.long, some (String.ofList rest)⟩], false⟩
      else do
        let others ← shortOptions known next rest
        return { others with given := ⟨o.long, none⟩ :: others.given }

/-- The options that a word gives. -/
def wordOptions (known : List OptionShape) (word : List Char) (next : Option String) :
    Except UsageFault WordOptions :=
  let name := word.takeWhile (· != '=')
  let attached := (word.dropWhile (· != '=')).tail
  let isAttached := word.contains '='
  match known.find? fun o ↦ o.long == name with
  | some o =>
    if o.takesValue then
      if isAttached then .ok ⟨[⟨o.long, some (String.ofList attached)⟩], false⟩
      else withNext o.long next
    else if isAttached then .error .badOptionUsage
    else .ok ⟨[⟨o.long, none⟩], false⟩
  | none =>
    match word with
    | '-' :: '-' :: _ => .error .noSuchOption
    | _ => shortOptions known next word.tail

/-- Words told apart. -/
structure Words where
  given : List GivenOption
  operands : List String
  deriving DecidableEq, Repr

/-- Tells the options among words from the operands. Options can stand after an operand only if they
are mixed. -/
def tellApart (known : List OptionShape) (mixed : Bool) : List String → Except UsageFault Words
  | [] => .ok ⟨[], []⟩
  | word :: rest =>
    match word.toList with
    | ['-', '-'] => .ok ⟨[], rest⟩
    | '-' :: c :: cs => do
      let options ← wordOptions known ('-' :: c :: cs) rest.head?
      let others ←
        if options.takesNext then
          match rest with
          | [] => .ok ⟨[], []⟩
          | _ :: later => tellApart known mixed later
        else tellApart known mixed rest
      return { others with given := options.given ++ others.given }
    | _ =>
      if mixed then do
        let others ← tellApart known mixed rest
        return { others with operands := word :: others.operands }
      else .ok ⟨[], word :: rest⟩

namespace Words

/-- Whether an option is given. -/
def has (w : Words) (long : String) : Bool := w.given.any fun o ↦ o.long == long.toList

/-- The values of an option, in order. -/
def values (w : Words) (long : String) : List String :=
  (w.given.filter fun o ↦ o.long == long.toList).filterMap (·.value)

/-- The last value of an option. -/
def value? (w : Words) (long : String) : Option String := (w.values long).getLast?

end Words

end Scriptorium.Command
