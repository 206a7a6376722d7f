/-
What can go wrong, by cause. `FormError` holds the mistakes in trees, templates
and expansions that a script writer is told about; `HostError` holds failures
of host values and host functions; `LoadError` holds failures to find the
forms of a target. Each has one function that words its message.
-/
import FormScript.Node.Display
import FormScript.Node.Key
import FormScript.Regex.Fault

namespace FormScript

-- ===================================================== malformed forms

/-- How the shape of a form can be wrong. -/
inductive Malformed where
  | methodWithoutObject (form : Node)
  | variableName (got : Node)
  | callWithoutCallee
  | dotShape (args : List Node)
  | ifShape (args : List Node)
  | argumentCount (name : String) (expected : Nat) (args : List Node)
  | assignmentPairs (args : List Node)
  | newWithoutConstructor
  | indexWithoutTarget
  | whileWithoutTest
  | loopWithoutBindings
  | loopPairs (bindings : Node)
  | parameterList (got : Node)
  | parameterName (got : Node)
  | functionLiteralShape (name : Option Ident)
  | functionShape

/-- The form with this name and these arguments, as messages show it. -/
def displayForm (name : String) (args : List Node) : String :=
  (Node.form (.sym ⟨name, none⟩ :: args)).display

namespace Malformed

def message : Malformed → String
  | methodWithoutObject form => "Method call needs an object: " ++ form.display
  | variableName got => "var expects symbol names, got " ++ got.display
  | callWithoutCallee => "funcall needs a callee"
  | dotShape args =>
    "(. obj method ...) needs an object and a method: " ++ displayForm "." args
  | ifShape args =>
    "if expects a test, a then branch and an optional else branch: " ++ displayForm "if" args
  | argumentCount name expected args =>
    name ++ " expects " ++ natText expected ++ " argument(s), got " ++ natText args.length ++ ": "
      ++ displayForm name args
  | assignmentPairs args => "set! expects target/value pairs: " ++ displayForm "set!" args
  | newWithoutConstructor => "new needs a constructor"
  | indexWithoutTarget => "aget needs a target"
  | whileWithoutTest => "while needs a test"
  | loopWithoutBindings => "doseq needs a binding vector"
  | loopPairs bindings =>
    "doseq bindings must be name/iterable pairs, got " ++ bindings.display
  | parameterList got => "Function parameters must be a vector, got " ++ got.display
  | parameterName got => "Function parameter must be a symbol, got " ++ got.display
  | functionLiteralShape none => "fn needs a parameter vector"
  | functionLiteralShape (some name) => "fn " ++ name.text ++ " needs a parameter vector"
  | functionShape => "function needs a name and a parameter vector"

end Malformed

/-- How the clauses of a `try` form can be wrong. -/
inductive MalformedTry where
  | noClause
  | manyCatches
  | manyFinallies
  | catchWithoutName
deriving DecidableEq

def MalformedTry.message : MalformedTry → String
  | noClause => "Must supply a catch or finally clause (or both) in a try statement! "
  | manyCatches => "Multiple catch clauses in a try statement are not currently supported! "
  | manyFinallies => "Cannot supply more than one finally clause in a try statement! "
  | catchWithoutName => "catch clause needs an exception name: "

-- =========================================================== templates

/-- How the holes of a template and the values for them can disagree. -/
inductive TemplateError where
  | unfilled (hole : Hole)
  | strandedSplice (hole : Hole)
  | unbound (hole : Hole)
  | missingValue (supplied : Nat)
  | surplusValues (holes supplied : Nat)
  | notSequence (hole : Hole) (got : Node)

def TemplateError.message : TemplateError → String
  | unfilled hole => "Unfilled template hole " ++ hole.text
  | strandedSplice hole => hole.text ++ " can only appear inside a form or vector"
  | unbound hole => "No value supplied for hole " ++ hole.text
  | missingValue supplied =>
    "Template has more positional holes than the " ++ natText supplied ++ " value(s) supplied"
  | surplusValues holes supplied =>
    "Template has " ++ natText holes ++ " positional hole(s) but " ++ natText supplied
      ++ " value(s) were supplied"
  | notSequence hole got =>
    hole.text ++ " needs a sequence, got " ++ got.kindName ++ ": " ++ got.display

-- ======================================================== form errors

/-- A mistake in a tree, a template or an expansion. -/
inductive FormError where
  | invalidIdentifier (text : String)
  | unsupportedArity (operator : String) (count : Nat)
  | malformed (cause : Malformed)
  | malformedTry (cause : MalformedTry) (args : List Node)
  | emptyForm
  | unknownHead (form : Node)
  /-- An expansion is nested deeper than the limit; the name is that of the
  form still to be expanded, if the node is one. -/
  | depthExceeded (name : Option String) (limit : Int)
  /-- A template form got the wrong number of arguments; `more` says that it
  takes any number beyond the fixed ones. -/
  | templateArity (name : String) (fixed : Nat) (more : Bool) (got : Nat)
  | template (cause : TemplateError)

namespace FormError

/-- The category of a mistake, as the command line reports it. -/
def category : FormError → String
  | invalidIdentifier _ => "InvalidIdentifier"
  | unsupportedArity _ _ => "UnsupportedArity"
  | malformed _ => "MalformedForm"
  | malformedTry _ _ => "MalformedTry"
  | emptyForm => "UnknownForm"
  | unknownHead _ => "UnknownForm"
  | depthExceeded _ _ => "ExpansionError"
  | templateArity _ _ _ _ => "ExpansionError"
  | template _ => "TemplateError"

def message : FormError → String
  | invalidIdentifier text => text ++ " is not a valid javascript symbol"
  | unsupportedArity operator count =>
    "operator " ++ operator ++ " does not support " ++ natText count ++ " argument(s)"
  | malformed cause => cause.message
  | malformedTry cause args => cause.message ++ displayForm "try" args
  | emptyForm => "Cannot emit an empty form: ()"
  | unknownHead form => "invalid form: " ++ form.display
  | depthExceeded name limit =>
    "Expansion of " ++ name.getD "None" ++ " exceeded depth " ++ intText limit
  | templateArity name fixed more got =>
    name ++ " expects " ++ natText fixed ++ (if more then "+" else "") ++ " argument(s), got "
      ++ natText got
  | template cause => cause.message

end FormError

-- ======================================================== file errors

/-- Why something cannot be done to a file or a directory. -/
inductive FileFault where
  | missing
  | present
  | notDirectory
  | isDirectory
  | nameTooLong
deriving DecidableEq

namespace FileFault

/-- The number that the system has for a fault. -/
def number : FileFault → Nat
  | missing => 2
  | present => 17
  | notDirectory => 20
  | isDirectory => 21
  | nameTooLong => 36

/-- The words that the system has for a fault. -/
def reason : FileFault → String
  | missing => "No such file or directory"
  | present => "File exists"
  | notDirectory => "Not a directory"
  | isDirectory => "Is a directory"
  | nameTooLong => "File name too long"

end FileFault

-- ======================================================== host errors

/-- A failure of a host value or a host function. -/
inductive HostError where
  | unhashableKey (kind : Unhashable)
  /-- A value was supplied under the one name that templates keep for themselves. -/
  | reservedName
  /-- A fraction is beyond the range of binary64 numbers. -/
  | ratioOverflow
  /-- An expansion function refused its arguments. -/
  | raised (message : String)
  /-- An expansion function said that an iteration is at its end. -/
  | exhausted (message : String)
  /-- It said so inside an iteration that was not. -/
  | brokenIteration
  /-- The rest marker of a parameter list is not second to last. -/
  | misplacedRest
  /-- A value that is neither a function nor a name was offered as a custom form. -/
  | notDefinable
  /-- A custom form was called that is not registered. -/
  | notCallable
  /-- A function got fewer arguments than it has parameters, or more. -/
  | wrongCall (function : String) (params : List String) (given : Nat)
  /-- The text of the expansion limit is no whole number. -/
  | limitText (raw : String)
  /-- A pattern is no regular expression. -/
  | pattern (cause : PatternError)
  /-- A fraction has no denominator. -/
  | zeroDenominator (numerator : Int)
  /-- Something cannot be done to what is at a path. -/
  | file (fault : FileFault) (path : String)
  /-- A path holds a null character. -/
  | nullCharacter
  /-- A text has no code in the encoding of files. -/
  | unencodable (message : String)

/-- The marker before the parameter that collects the remaining arguments. -/
def restMarker : String := "&rest"

/-- The name that no value for a hole can have. -/
def reservedName : String := "template"

/-- The environment variable that holds the expansion limit. -/
def limitVariable : String := "JSFORMS_MAX_EXPANSION_DEPTH"

/-- Quoted names in a row: `'a'`, `'a' and 'b'`, `'a', 'b', and 'c'`. -/
def nameRow : List String → String
  | [] => ""
  | [name] => Text.quoted name
  | [first, second] => Text.quoted first ++ " and " ++ Text.quoted second
  | names =>
    ", ".intercalate (names.dropLast.map Text.quoted) ++ ", and "
      ++ Text.quoted (names.getLast?.getD "")

/-- How many of the arguments that stand by position, in words. -/
def positionalCount (count : Nat) (adjective : String) : String :=
  natText count ++ adjective ++ " positional argument" ++ if count = 1 then "" else "s"

/-- The message for a function that got the wrong number of arguments. -/
def wrongCallMessage (function : String) (params : List String) (given : Nat) : String :=
  let missing := params.drop given
  function ++ "() " ++
    if missing.isEmpty then
      "takes " ++ positionalCount params.length "" ++ " but " ++ natText given
        ++ (if given = 1 then " was given" else " were given")
    else "missing " ++ positionalCount missing.length " required" ++ ": " ++ nameRow missing

def HostError.message : HostError → String
  | unhashableKey kind => "unhashable type: " ++ Text.quoted kind.name
  | reservedName =>
    "fill() got multiple values for argument " ++ Text.quoted FormScript.reservedName
  | ratioOverflow => "integer division result too large for a float"
  | raised message => message
  | exhausted message => message
  | brokenIteration => "generator raised StopIteration"
  | misplacedRest => restMarker ++ " must be followed by exactly one parameter name"
  | notDefinable => "jsmacro expects a function or a form name"
  | notCallable => Text.quoted Node.nil.kindName ++ " object is not callable"
  | wrongCall function params given => wrongCallMessage function params given
  | limitText raw => limitVariable ++ " must be an integer, got " ++ Text.quoted raw
  | pattern cause => cause.message
  | zeroDenominator numerator => "Fraction(" ++ intText numerator ++ ", 0)"
  | file fault path =>
    "[Errno " ++ natText fault.number ++ "] " ++ fault.reason ++ ": " ++ Text.quoted path
  | nullCharacter => "embedded null byte"
  | unencodable message => message

-- ======================================================== load errors

/-- A failure to find the forms of a target. -/
inductive LoadError where
  | fileNotFound (path : String)
  /-- The file is not one that can be run as a module. -/
  | notImportable (path : String)
  | noVariable (moduleName name : String)
  | noModule (name : String)
  /-- The part of a module's name before its last dot names no package. -/
  | notPackage (name parent : String)
  /-- A module's name starts with a dot. -/
  | relativeName (name : String)

def LoadError.message : LoadError → String
  | fileNotFound path => "File not found: " ++ path
  | notImportable path => "Cannot import " ++ path
  | noVariable moduleName name => moduleName ++ " has no variable '" ++ name ++ "'"
  | noModule name => "No module named " ++ Text.quoted name
  | notPackage name parent =>
    "No module named " ++ Text.quoted name ++ "; " ++ Text.quoted parent ++ " is not a package"
  | relativeName name =>
    "the 'package' argument is required to perform a relative import for " ++ Text.quoted name

-- ========================================================= all errors

/-- Any failure. -/
inductive Error where
  | form (cause : FormError)
  | host (cause : HostError)
  | load (cause : LoadError)

namespace Error

def message : Error → String
  | form cause => cause.message
  | host cause => cause.message
  | load cause => cause.message

/-- A failure as it comes out of an iteration. The end of an iteration cannot
be told from inside another one. -/
def iterated : Error → Error
  | host (.exhausted _) => host .brokenIteration
  | e => e

@[simp] theorem iterated_form (cause : FormError) : (form cause).iterated = form cause := rfl

@[simp] theorem iterated_iterated (e : Error) : e.iterated.iterated = e.iterated := by
  cases e with
  | host cause => cases cause <;> rfl
  | form | load => rfl

end Error

end FormScript
