import Stubgen.CommandLine.Opt

/-!
# Reading command lines

The options of a command line are read from left to right.  A value stands in
the word of its option or is the next word, which must not look like an option.
-/

namespace Stubgen.CommandLine

inductive Misuse
  | unknownOption (word : Text)
  | unexpectedWord (word : Text)
  | unexpectedValue (o : Opt)
  | missingValue (o : Opt)
  | invalidValue (o : Opt) (value : Text)
  | repeated (o : Opt)
  | missing (o : Opt)
  | conflict (o other : Opt)
  | missingCommand
  deriving DecidableEq, Repr

def Misuse.message : Misuse → Text
  | unknownOption word => "unknown option '".toList ++ word ++ ['\'']
  | unexpectedWord word => "unexpected argument '".toList ++ word ++ ['\'']
  | unexpectedValue o =>
    "option '--".toList ++ o.long ++ "' takes no value".toList
  | missingValue o => "option '--".toList ++ o.long ++ "' needs a value".toList
  | invalidValue o value =>
    "invalid value '".toList ++ value ++ "' for option '--".toList ++ o.long ++
      ['\'']
  | repeated o =>
    "option '--".toList ++ o.long ++ "' is given more than once".toList
  | missing o => "option '--".toList ++ o.long ++ "' is required".toList
  | conflict o other =>
    "options '--".toList ++ o.long ++ "' and '--".toList ++ other.long ++
      "' exclude each other".toList
  | missingCommand => "no command given".toList

inductive Stop
  | misuse (m : Misuse)
  | help
  | version
  deriving DecidableEq, Repr

structure Given where
  opt : Opt
  value : Text := []
  deriving DecidableEq, Repr

/-- Adds an option to those that were given before it. -/
def give (given : List Given) (o : Opt) (value : Text) :
    Except Stop (List Given) :=
  if o = .help then .error .help
  else if o = .version then .error .version
  else if !o.repeats && given.any (·.opt = o) then
    .error (.misuse (.repeated o))
  else if !o.accepts value then .error (.misuse (.invalidValue o value))
  else .ok (given ++ [⟨o, value⟩])

/-- What a word does: it gives options, it leaves the last of them without its
value, or it is no option. -/
inductive Word
  | complete (given : List Given)
  | open_ (given : List Given) (o : Opt)
  | plain
  deriving DecidableEq, Repr

/-- Reads the letters of a word.  What follows the letter of an option with a
value is the value, without an equals sign in front of it. -/
def readLetters (offers : List Offer) (given : List Given) :
    Text → Except Stop Word
  | [] => .ok (.complete given)
  | c :: rest =>
    match byLetter? offers c with
    | none => .error (.misuse (.unknownOption ['-', c]))
    | some o =>
      if !o.takesValue then do
        let given ← give given o []
        readLetters offers given rest
      else
        match rest with
        | [] => .ok (.open_ given o)
        | '=' :: value => (give given o value).map .complete
        | value => (give given o value).map .complete

/-- Reads the long name of an option and, behind an equals sign, its value. -/
def readName (offers : List Offer) (given : List Given) (t : Text) :
    Except Stop Word :=
  let name := t.takeWhile (· ≠ '=')
  match byName? offers name, t.dropWhile (· ≠ '=') with
  | none, _ => .error (.misuse (.unknownOption ('-' :: '-' :: name)))
  | some o, [] =>
    if o.takesValue then .ok (.open_ given o)
    else (give given o []).map .complete
  | some o, _ :: value =>
    if o.takesValue then (give given o value).map .complete
    else .error (.misuse (.unexpectedValue o))

/-- Reads a word.  Two dashes and a lone dash are no options. -/
def readWord (offers : List Offer) (given : List Given) (word : Text) :
    Except Stop Word :=
  match word with
  | ['-', '-'] => .ok .plain
  | '-' :: '-' :: t => readName offers given t
  | ['-'] => .ok .plain
  | '-' :: t => readLetters offers given t
  | _ => .ok .plain

/-- Whether a word may be the value of the option before it. -/
def isValue (word : Text) : Bool := word = ['-'] || word.head? ≠ some '-'

/-- Reads options up to the first word that is none, and gives that word and all
behind it. -/
def readOptions (offers : List Offer) (given : List Given) :
    List Text → Except Stop (List Given × List Text)
  | [] => .ok (given, [])
  | word :: rest => do
    match ← readWord offers given word, rest with
    | .plain, _ => return (given, word :: rest)
    | .complete given, rest => readOptions offers given rest
    | .open_ _ o, [] => .error (.misuse (.missingValue o))
    | .open_ given o, value :: rest =>
      if isValue value then do
        let given ← give given o value
        readOptions offers given rest
      else .error (.misuse (.missingValue o))

structure Options where
  given : List Given

namespace Options

/-- The value of an option that is given at most once. -/
def value? (options : Options) (o : Opt) : Option Text :=
  (options.given.find? (·.opt = o)).map (·.value)

def values (options : Options) (o : Opt) : List Text :=
  (options.given.filter (·.opt = o)).map (·.value)

def has (options : Options) (o : Opt) : Bool := options.given.any (·.opt = o)

/-- The Java home that is given, or else the one of the environment. -/
def javaHome (options : Options) (environment : Option Text) :
    Except Stop (Option Text) :=
  match options.value? .javaHome, environment with
  | some home, _ => .ok (some home)
  | none, none => .ok none
  | none, some home =>
    if Opt.accepts .javaHome home then .ok (some home)
    else .error (.misuse (.invalidValue .javaHome home))

def request (options : Options) (environment : Option Text) :
    Except Stop Request := do
  let javaHome ← options.javaHome environment
  if !options.has .className then .error (.misuse (.missing .className))
  else
    return ⟨options.values .className, javaHome, options.value? .classPath,
      options.value? .skip, options.value? .fromDir⟩

def profile? (options : Options) : Option Python.Profile :=
  if options.has .pww then some .extended
  else (options.value? .profile).bind Python.Profile.ofName?

def command (options : Options) (environment : Option Text) :
    Verb → Except Stop Command
  | .init => do
    let javaHome ← options.javaHome environment
    return .init ⟨javaHome, options.value? .classPath, none,
      options.profile?.getD .plain⟩
      (options.has .force)
  | .generate => do
    let request ← options.request environment
    if options.has .pww && options.has .profile then
      .error (.misuse (.conflict .pww .profile))
    else if options.has .append && !options.has .output then
      .error (.misuse (.missing .output))
    else
      return .generate request options.profile? (options.value? .output)
        (options.has .append)
  | .inspect => do
    let request ← options.request environment
    return .inspect request
      (((options.value? .format).bind Format.ofName?).getD .text)

end Options

/-- Reads the words behind the name of a command.  Two dashes may stand at the
end. -/
def parseVerb (v : Verb) (environment : Option Text) (words : List Text) :
    Except Stop Command := do
  let (given, rest) ← readOptions v.offers [] words
  match rest with
  | [] | [['-', '-']] => Options.command ⟨given⟩ environment v
  | word :: _ => .error (.misuse (.unexpectedWord word))

/-- Reads a command line.  `environment` is the Java home of the environment. -/
def parse (environment : Option Text) (words : List Text) :
    Except Stop Command := do
  let (_, rest) ← readOptions commonOffers [] words
  match rest with
  | [] => .error (.misuse .missingCommand)
  | word :: rest =>
    match Verb.ofName? word with
    | some v => parseVerb v environment rest
    | none =>
      if word = "help".toList then .error .help
      else .error (.misuse (.unexpectedWord word))

end Stubgen.CommandLine
