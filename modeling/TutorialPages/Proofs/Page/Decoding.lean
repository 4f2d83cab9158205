import TutorialPages.Page.Encoding
import TutorialPages.Proofs.Json.Reader

/-!
# Reading pages back

The decoder finds members by their key, wherever in the object they stand. Commands share keys: the
member `value` is a text in four of them and an integer in two, and `content` serves two methods.
So the decoder reads the method first and takes from it which members to expect. A namespace and a
list of images may be missing; a list of images that is there may be empty.

Nothing of a document is lost in its compact text, whatever its texts and numbers are.
-/

namespace TutorialPages

/-! ## Reading values -/

namespace Json

def text? : Json → Option Text
  | .text value => some value
  | _ => none

/-- An integer that fits into 64 bits. -/
def int64? : Json → Option Int64
  | .integer n =>
    if Int64.minValue.toInt ≤ n ∧ n ≤ Int64.maxValue.toInt then some (Int64.ofInt n) else none
  | _ => none

/-- The choice that has exactly the given word. -/
def choice? {α : Type} (choices : List α) (word : α → Text) (value : Json) : Option α := do
  let given ← value.text?
  choices.find? fun choice => word choice = given

variable {α : Type}

def list? (item? : Json → Option α) : Json → Option (List α)
  | .array items => items.mapM item?
  | _ => none

/-- A member that must be there. -/
def member? (key : Text) (value? : Json → Option α) : Json → Option α
  | .object members => (members.lookup key).bind value?
  | _ => none

/-- A member that may be missing. -/
def optional? (key : Text) (value? : Json → Option α) : Json → Option (Option α)
  | .object members =>
    match members.lookup key with
    | some value => (value? value).map some
    | none => some none
  | _ => none

theorem int64?_toInt (n : Int64) : int64? (.integer n.toInt) = some n := by
  have hrange : Int64.minValue.toInt ≤ n.toInt ∧ n.toInt ≤ Int64.maxValue.toInt :=
    ⟨n.minValue_le_toInt, n.toInt_le⟩
  rw [int64?, if_pos hrange, Int64.ofInt_toInt]

/-- A list is read back when its items are. -/
theorem list?_map {item? : Json → Option α} {toJson : α → Json}
    (h : ∀ item, item? (toJson item) = some item) (items : List α) :
    list? item? (.array (items.map toJson)) = some items := by
  induction items with
  | nil => rfl
  | cons item rest ih =>
    rw [list?] at ih
    rw [list?, List.map_cons, List.mapM_cons, h, ih]
    rfl

end Json

/-! ## Reading documents -/

def EmbeddedFile.ofJson? (value : Json) : Option EmbeddedFile := do
  let name ← value.member? "name" Json.text?
  let contents ← value.member? "value" Json.text?
  return ⟨name, contents⟩

def ResourceKind.ofJson? : Json → Option ResourceKind :=
  Json.choice? Vocabulary.all Vocabulary.word

def Operator.ofJson? : Json → Option Operator :=
  Json.choice? Vocabulary.all Vocabulary.word

def Condition.ofJson? (value : Json) : Option Condition := do
  let kind ← value.member? "kind" ResourceKind.ofJson?
  let target ← value.member? "target" Json.text?
  let operator ← value.member? "equalityOperator" Operator.ofJson?
  let expected ← value.member? "value" Json.int64?
  let place ← value.optional? "namespace" Json.text?
  return ⟨kind, target, operator, expected, place⟩

/-- The method of a command, whose role must be that of the method. -/
def Method.ofJson? (value : Json) : Option Method := do
  let method ← value.member? "method" (Json.choice? all word)
  let role ← value.member? "type" Json.text?
  if role = method.role.word then some method else none

/-- The pre-command with a method. -/
def PreCommand.ofMembers? (value : Json) : Method → Option PreCommand
  | .apply => (value.member? "content" EmbeddedFile.ofJson?).map .apply
  | .includeFile => (value.member? "content" EmbeddedFile.ofJson?).map .includeFile
  | .execCommand => (value.member? "value" Json.text?).map .execCommand
  | .wait => (Condition.ofJson? value).map .wait
  | _ => none

def PreCommand.ofJson? (value : Json) : Option PreCommand := do
  PreCommand.ofMembers? value (← Method.ofJson? value)

/-- The post-check with a method. -/
def PostCheck.ofMembers? (value : Json) : Method → Option PostCheck
  | .commandWait => (value.member? "value" Json.text?).map .commandWait
  | .check => (Condition.ofJson? value).map .check
  | .fileCheck => (value.member? "value" Json.text?).map .fileCheck
  | .checkCommandOut => (value.member? "value" Json.text?).map .checkCommandOut
  | _ => none

def PostCheck.ofJson? (value : Json) : Option PostCheck := do
  PostCheck.ofMembers? value (← Method.ofJson? value)

def Asset.ofJson? (value : Json) : Option Asset := do
  let name ← value.member? "name" Json.text?
  let content ← value.member? "image" Json.text?
  return ⟨name, content⟩

def Page.ofJson? (value : Json) : Option Page := do
  let preCommands ← value.member? "preCommands" (Json.list? PreCommand.ofJson?)
  let text ← value.member? "text" Json.text?
  let postChecks ← value.member? "postChecks" (Json.list? PostCheck.ofJson?)
  let assets ← value.optional? "assets" (Json.list? Asset.ofJson?)
  return ⟨preCommands, text, postChecks, assets⟩

namespace Document

def ofJson? (value : Json) : Option Document := do
  return ⟨← value.list? Page.ofJson?⟩

/-- The document that a JSON text stands for. -/
def decode? (text : Text) : Option Document :=
  (Json.read? text).bind ofJson?

end Document

/-! ## Reading takes writing back -/

theorem EmbeddedFile.ofJson?_toJson (file : EmbeddedFile) :
    ofJson? file.toJson = some file := rfl

theorem ResourceKind.ofJson?_word (kind : ResourceKind) :
    ofJson? (.text (Vocabulary.word kind)) = some kind := by
  cases kind <;> rfl

theorem Operator.ofJson?_word (operator : Operator) :
    ofJson? (.text (Vocabulary.word operator)) = some operator := by
  cases operator <;> rfl

theorem Method.ofJson?_commandObject (method : Method) (members : List (Text × Json)) :
    ofJson? (commandObject method members) = some method := by
  cases method <;> rfl

/-- A condition is read from the object of its command, whose own keys are not those of the
condition. -/
theorem Condition.ofJson?_commandObject (method : Method) (condition : Condition) :
    ofJson? (commandObject method condition.members) = some condition := by
  obtain ⟨kind, target, operator, expected, place⟩ := condition
  let value := commandObject method (members ⟨kind, target, operator, expected, place⟩)
  -- every key leads back to its own part
  have hkind : value.member? "kind" ResourceKind.ofJson? = some kind :=
    ResourceKind.ofJson?_word kind
  have htarget : value.member? "target" Json.text? = some target := rfl
  have hoperator : value.member? "equalityOperator" Operator.ofJson? = some operator :=
    Operator.ofJson?_word operator
  have hexpected : value.member? "value" Json.int64? = some expected :=
    Json.int64?_toInt expected
  have hplace : value.optional? "namespace" Json.text? = some place := by
    cases place <;> rfl
  unfold ofJson?
  rw [hkind, htarget, hoperator, hexpected, hplace]
  rfl

theorem PreCommand.ofJson?_toJson (command : PreCommand) :
    ofJson? command.toJson = some command := by
  have hmethod : Method.ofJson? command.toJson = some command.method :=
    Method.ofJson?_commandObject _ _
  rw [ofJson?, hmethod, Option.bind_eq_bind, Option.bind_some]
  cases command with
  | apply file => rfl
  | includeFile file => rfl
  | execCommand text => rfl
  | wait condition =>
    exact congrArg (Option.map wait) (Condition.ofJson?_commandObject .wait condition)

theorem PostCheck.ofJson?_toJson (check : PostCheck) : ofJson? check.toJson = some check := by
  have hmethod : Method.ofJson? check.toJson = some check.method :=
    Method.ofJson?_commandObject _ _
  rw [ofJson?, hmethod, Option.bind_eq_bind, Option.bind_some]
  cases check with
  | commandWait text => rfl
  | check condition =>
    exact congrArg (Option.map PostCheck.check) (Condition.ofJson?_commandObject .check condition)
  | fileCheck text => rfl
  | checkCommandOut text => rfl

theorem Asset.ofJson?_toJson (asset : Asset) : ofJson? asset.toJson = some asset := rfl

theorem Page.ofJson?_toJson (page : Page) : ofJson? page.toJson = some page := by
  obtain ⟨preCommands, text, postChecks, assets⟩ := page
  let value := toJson ⟨preCommands, text, postChecks, assets⟩
  -- three parts are always there, and the images are left out when there are none
  have hpreCommands : value.member? "preCommands" (Json.list? PreCommand.ofJson?) =
      some preCommands := Json.list?_map PreCommand.ofJson?_toJson preCommands
  have htext : value.member? "text" Json.text? = some text := rfl
  have hpostChecks : value.member? "postChecks" (Json.list? PostCheck.ofJson?) =
      some postChecks := Json.list?_map PostCheck.ofJson?_toJson postChecks
  have hassets : value.optional? "assets" (Json.list? Asset.ofJson?) = some assets := by
    cases assets with
    | none => rfl
    | some assets =>
      exact congrArg (Option.map some) (Json.list?_map Asset.ofJson?_toJson assets)
  unfold ofJson?
  rw [hpreCommands, htext, hpostChecks, hassets]
  rfl

namespace Document

theorem ofJson?_toJson (document : Document) : ofJson? document.toJson = some document := by
  rw [ofJson?, toJson, Json.list?_map Page.ofJson?_toJson]
  rfl

/-- Two documents with the same JSON form are the same. -/
theorem toJson_injective : Function.Injective toJson := by
  intro document other h
  rw [← Option.some_inj, ← ofJson?_toJson document, h, ofJson?_toJson]

/-- A JSON reader recovers from the compact text of any document its JSON form, from this the
document is decoded, and no other document has the same JSON form or the same compact text. -/
theorem decode_compact (document : Document) :
    Json.read? document.compact = some document.toJson ∧
    ofJson? document.toJson = some document ∧
    decode? document.compact = some document ∧
    (∀ other : Document, other.toJson = document.toJson → other = document) ∧
    ∀ other : Document, other.compact = document.compact → other = document := by
  have hread : ∀ document : Document, Json.read? document.compact = some document.toJson :=
    fun document => Json.read?_compact document.toJson
  refine ⟨hread document, ofJson?_toJson document, ?_, fun other h => toJson_injective h, ?_⟩
  · rw [decode?, hread, Option.bind_some, ofJson?_toJson]
  · intro other h
    apply toJson_injective
    rw [← Option.some_inj, ← hread other, h, hread]

end Document

end TutorialPages
