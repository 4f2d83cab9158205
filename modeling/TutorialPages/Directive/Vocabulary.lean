import TutorialPages.Text.LetterCase

/-!
# The words of directives

A directive begins with a method word, whose case does not matter. Conditions also use two closed
vocabularies, the kinds of resources and the comparison operators; each is a type with its words in
a fixed order. A word outside a vocabulary is related to those of its words that contain it or that
it contains.
-/

namespace TutorialPages

/-- When a command runs relative to the body of its page. -/
inductive Role where
  /-- Before the body is presented. -/
  | preCommand
  /-- After the body, to verify what it led to. -/
  | postCheck
  deriving DecidableEq, Repr

namespace Role

/-- The word for a role. -/
def word : Role → Text
  | .preCommand => "PRECOMMAND"
  | .postCheck => "POSTCHECK"

end Role

/-- What a command does; the word that a directive begins with. -/
inductive Method where
  /-- Embeds a manifest to apply. -/
  | apply
  /-- Waits until a condition holds. -/
  | wait
  /-- Runs shell text. -/
  | execCommand
  /-- Embeds a file to show. -/
  | includeFile
  /-- Runs shell text and waits for it. -/
  | commandWait
  /-- Verifies a condition. -/
  | check
  /-- Verifies that a file exists. -/
  | fileCheck
  /-- Verifies the output of a command. -/
  | checkCommandOut
  deriving DecidableEq, Repr

namespace Method

/-- Every method, in the order in which messages list them. -/
def all : List Method :=
  [.apply, .wait, .execCommand, .includeFile, .commandWait, .check, .fileCheck, .checkCommandOut]

/-- The word for a method. -/
def word : Method → Text
  | .apply => "APPLY"
  | .wait => "WAIT"
  | .execCommand => "EXECCOMMAND"
  | .includeFile => "INCLUDEFILE"
  | .commandWait => "COMMANDWAIT"
  | .check => "CHECK"
  | .fileCheck => "FILECHECK"
  | .checkCommandOut => "CHECKCOMMANDOUT"

/-- The method that a word names, in any mix of upper and lower case. -/
def ofWord? (given : Text) : Option Method :=
  all.find? fun method => Text.sameWord method.word given

/-- When a method's command runs. -/
def role : Method → Role
  | .apply | .wait | .execCommand | .includeFile => .preCommand
  | .commandWait | .check | .fileCheck | .checkCommandOut => .postCheck

/-- The arguments that a method takes, as messages show them. -/
def usage : Method → Text
  | .apply => "APPLY <file>"
  | .wait => "WAIT <kind> NAME <target> COUNT <operator> <value> [NAMESPACE <namespace>]"
  | .execCommand => "EXECCOMMAND <command>"
  | .includeFile => "INCLUDEFILE <file>"
  | .commandWait => "COMMANDWAIT <command>"
  | .check => "CHECK <kind> NAME <target> COUNT <operator> <value> [NAMESPACE <namespace>]"
  | .fileCheck => "FILECHECK <file>"
  | .checkCommandOut => "CHECKCOMMANDOUT <output>"

end Method

/-- The directives that there are, as a message lists them. -/
def acceptedDirectives : Text :=
  Text.joinWith ", " (Method.all.map Method.word ++ (["START PAGE", "END PAGE"] : List Text))

/-- The kind of resource that a condition counts. -/
inductive ResourceKind where
  | pod
  | deployment
  | service
  | secret
  | configMap
  | replicaSet
  deriving DecidableEq, Repr

/-- The comparison of the observed count with the expected one. -/
inductive Operator where
  | equals
  | greaterThan
  | lessThan
  deriving DecidableEq, Repr

/-- The place in a condition that takes a word of a closed vocabulary. -/
inductive Field where
  /-- The kind of resource. -/
  | kind
  /-- The comparison operator. -/
  | operator
  deriving DecidableEq, Repr

/-- A closed vocabulary: its words are those of a type's values, in a fixed order. -/
class Vocabulary (α : Type) where
  /-- Every value, in order. -/
  all : List α
  /-- The word for a value, in capital letters. -/
  word : α → Text
  /-- The place that the vocabulary belongs to. -/
  field : Field

instance : Vocabulary ResourceKind where
  all := [.pod, .deployment, .service, .secret, .configMap, .replicaSet]
  word
    | .pod => "POD"
    | .deployment => "DEPLOYMENT"
    | .service => "SERVICE"
    | .secret => "SECRET"
    | .configMap => "CONFIGMAP"
    | .replicaSet => "REPLICASET"
  field := .kind

instance : Vocabulary Operator where
  all := [.equals, .greaterThan, .lessThan]
  word
    | .equals => "EQUALS"
    | .greaterThan => "GREATERTHAN"
    | .lessThan => "LESSTHAN"
  field := .operator

namespace Vocabulary

/-- The words of a vocabulary, in order. -/
def words (α : Type) [Vocabulary α] : List Text :=
  (all : List α).map word

/-- The options that contain the value or occur in it, in their order. -/
def related (value : Text) (options : List Text) : List Text :=
  options.filter fun option => Text.occursIn value option || Text.occursIn option value

end Vocabulary

namespace Field

/-- The noun for the place. -/
def label : Field → Text
  | .kind => "kind"
  | .operator => "operator"

/-- The words that the place accepts, in order. -/
def words : Field → List Text
  | .kind => Vocabulary.words ResourceKind
  | .operator => Vocabulary.words Operator

end Field

end TutorialPages
