import Stubgen.Command.Basic

/-!
# Options

The words of a command line are options, each with a long name and some with a
letter, and the name of a command.  Every command takes options of its own.
-/

namespace Stubgen.CommandLine

inductive Opt
  | help
  | version
  | debug
  | className
  | classPath
  | javaHome
  | skip
  | fromDir
  | profile
  | pww
  | output
  | append
  | format
  | force
  deriving DecidableEq, Repr

namespace Opt

def long : Opt → Text
  | help => "help".toList
  | version => "version".toList
  | debug => "debug".toList
  | className => "class".toList
  | classPath => "class-path".toList
  | javaHome => "java-home".toList
  | skip => "skip".toList
  | fromDir => "from-dir".toList
  | profile => "profile".toList
  | pww => "pww".toList
  | output => "output".toList
  | append => "append".toList
  | format => "format".toList
  | force => "force".toList

def takesValue : Opt → Bool
  | help | version | debug | pww | append | force => false
  | _ => true

def repeats (o : Opt) : Bool := o = className

/-- Whether a value will do.  A path has to be something, and some values are
names. -/
def accepts (o : Opt) (value : Text) : Bool :=
  match o with
  | javaHome | fromDir | output => !value.isEmpty
  | profile => (Python.Profile.ofName? value).isSome
  | format => (Format.ofName? value).isSome
  | _ => true

end Opt

inductive Verb
  | init
  | generate
  | inspect
  deriving DecidableEq, Repr

namespace Verb

def name : Verb → Text
  | init => "init".toList
  | generate => "generate".toList
  | inspect => "inspect".toList

def ofName? (name : Text) : Option Verb :=
  [init, generate, inspect].find? (·.name = name)

end Verb

structure Offer where
  opt : Opt
  letter : Option Char := none
  deriving DecidableEq, Repr

/-- The options that may be given before the name of a command. -/
def commonOffers : List Offer :=
  [⟨.help, some 'h'⟩, ⟨.version, some 'V'⟩, ⟨.debug, none⟩]

/-- The options that say which classes are read and how. -/
def requestOffers : List Offer :=
  [⟨.help, some 'h'⟩, ⟨.debug, none⟩, ⟨.className, none⟩, ⟨.classPath, none⟩,
    ⟨.javaHome, none⟩, ⟨.skip, none⟩, ⟨.fromDir, none⟩]

def Verb.offers : Verb → List Offer
  | init =>
    [⟨.help, some 'h'⟩, ⟨.debug, none⟩, ⟨.classPath, none⟩, ⟨.javaHome, none⟩,
      ⟨.profile, none⟩, ⟨.force, some 'f'⟩]
  | generate =>
    requestOffers ++
      [⟨.profile, none⟩, ⟨.pww, none⟩, ⟨.output, some 'o'⟩, ⟨.append, none⟩]
  | inspect => requestOffers ++ [⟨.format, some 'f'⟩]

def byName? (offers : List Offer) (name : Text) : Option Opt :=
  (offers.find? (·.opt.long = name)).map (·.opt)

def byLetter? (offers : List Offer) (letter : Char) : Option Opt :=
  (offers.find? (·.letter = some letter)).map (·.opt)

end Stubgen.CommandLine
