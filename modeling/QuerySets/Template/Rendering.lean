import QuerySets.Document.Path
import QuerySets.Template.Bag
import QuerySets.Template.Directive
import QuerySets.Template.Duration
import QuerySets.Template.Literal
import QuerySets.Template.Substitution
import QuerySets.Time.Written

/-!
Rendering of stages. Variables are substituted in keys and strings, and a string
that is a directive then is replaced by the value that it stands for. The payload
of most directives may be the name of a variable; its value is taken instead.
-/

namespace QuerySets

open Time

/-- What a template is rendered with. -/
structure Scope where
  vars : Variables
  bag : Bag
  now : Instant

namespace Scope

/-- The value of the variable that a payload names, or else the payload. -/
def payload (s : Scope) (text : String) : String := (s.vars.get? text).getD text

/-- Reads the payload of a directive. -/
def readPayload (s : Scope) (text : String) (read : String → Option Value)
    (fault : String → TemplateError) : Except TemplateError Value :=
  match read (s.payload text) with
  | some v => .ok v
  | none => .error (fault (s.payload text))

/-- The instant that lies a duration from now. -/
def fromNow? (s : Scope) (text : String) : Option Value :=
  (Duration.ofString? text).bind fun nanos => (s.now.add? nanos).map .date

/-- What a path leads to in a saved document; the document itself without one. -/
def part? (path : Option String) (d : Document) : Option Value :=
  match path with
  | none => some (.document d)
  | some path => d.getPath? path

/-- How a path into the documents of a key is written. -/
def pathName (key : String) : Option String → String
  | none => key
  | some path => key ++ "." ++ path

/-- Saved documents, or parts of them. Where all are asked for, those without the
part are passed over. -/
def savedValue (s : Scope) (selector : Selector) (key : String) (path : Option String) :
    Except TemplateError Value := do
  let docs ← s.bag.get key
  match selector with
  | .all => return .array (docs.filterMap (part? path))
  | .index n =>
    match docs[n]? with
    | none => .error (.indexOutOfRange key n docs.length)
    | some d =>
      match part? path d with
      | some v => return v
      | none => .error (.keyNotFound (pathName key path))

/-- The value that a directive stands for. -/
def resolve (s : Scope) : Directive → Except TemplateError Value
  | .string name =>
    match s.vars.get? name with
    | some text => .ok (.string text)
    | none => .error (.missingParameter name)
  | .number text => s.readPayload text Literal.number? .badNumber
  | .date text => s.readPayload text (fun t => (Written.instant? t).map .date) .badDate
  | .objectId text =>
    s.readPayload text (fun t => (ObjectId.ofHex? t).map .objectId) .badObjectId
  | .pattern text => s.readPayload text Literal.pattern? .badPattern
  | .time text => s.readPayload text s.fromNow? .badDuration
  | .data selector key path => s.savedValue selector key path

def renderText (s : Scope) (raw : String) : Except TemplateError Value :=
  let text := s.vars.substitute raw
  match Directive.read? text with
  | some directive => directive.bind s.resolve
  | none => .ok (.string text)

/-- The operators whose operand is a list. -/
def takesList (operator : String) : Bool := operator == "$in" || operator == "$nin"

/-- Whether a value is written as a directive. -/
def isDirective (s : Scope) : Value → Bool
  | .string raw => (Directive.read? (s.vars.substitute raw)).isSome
  | _ => false

/-- A directive in place of a list must have given one. -/
def checkList (s : Scope) (key : String) (written rendered : Value) :
    Except TemplateError Unit :=
  if takesList key && s.isDirective written && rendered.array?.isNone then
    .error (.needsArray key rendered.kind)
  else .ok ()

mutual
def renderValue (s : Scope) : Value → Except TemplateError Value
  | .string raw => s.renderText raw
  | .array items => do return .array (← renderItems s items)
  | .document ⟨entries⟩ => do return .document (← renderEntries s Fields.empty entries)
  | v => .ok v

def renderItems (s : Scope) : List Value → Except TemplateError (List Value)
  | [] => .ok []
  | item :: rest => do
    let first ← renderValue s item
    let others ← renderItems s rest
    return first :: others

/-- Renders entries one after the other into a document. -/
def renderEntries (s : Scope) (out : Document) :
    List (String × Value) → Except TemplateError Document
  | [] => .ok out
  | (key, written) :: rest => do
    let key := s.vars.substitute key
    let rendered ← renderValue s written
    s.checkList key written rendered
    renderEntries s (out.insert key rendered) rest
end

def render (s : Scope) (stage : Document) : Except TemplateError Document :=
  s.renderEntries Fields.empty stage.entries

def renderAll (s : Scope) (stages : List Document) : Except TemplateError (List Document) :=
  stages.mapM s.render

end Scope

end QuerySets
