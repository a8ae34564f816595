import ControlLoop.Json.Token

/-!
# Documents

A `Document` is well-formed JSON text as a tree.  It may hold parts that stand
for no datum: strings with an unpaired surrogate, numbers beyond the range of
doubles, and containers nested too deeply to be read.  Only the parts that a
reader looks at have to be usable; see `ControlLoop.Json.Selection`.

The tree is built from tokens by a machine whose stack holds the containers that
are still open.
-/

namespace ControlLoop.Json

/-- Well-formed JSON text. -/
inductive Document where
  | null
  | bool (value : Bool)
  | number (literal : String) (numeral : Numeral)
  | string (content : Option String)
  | array (items : List Document)
  | object (members : List (Option String × Document))

namespace Document

/-- A container that is still open; finished parts are held last first. -/
inductive Frame where
  | items (finished : List Document)
  /-- An object, with the key of the member whose value comes next. -/
  | members (finished : List (Option String × Document)) (key : Option String)

/-- What may come next. -/
inductive Expecting where
  | value
  /-- The first item of an array, or its end. -/
  | item
  | key (finished : List (Option String × Document))
  /-- The first key of an object, or its end. -/
  | firstKey
  | colon (finished : List (Option String × Document)) (key : Option String)
  /-- A document has just been finished. -/
  | next (finished : Document)

/-- The open containers, innermost first, and what may come next. -/
structure Builder where
  frames : List Frame
  expecting : Expecting

/-- Go on after a finished document. -/
def Builder.finish (frames : List Frame) (document : Document) : Builder :=
  ⟨frames, .next document⟩

/-- Start a value with a token. -/
def Builder.value? (frames : List Frame) : Token → Option Builder
  | .null => some (finish frames .null)
  | .bool value => some (finish frames (.bool value))
  | .number literal numeral => some (finish frames (.number literal numeral))
  | .string content => some (finish frames (.string content))
  | .openArray => some ⟨frames, .item⟩
  | .openObject => some ⟨frames, .firstKey⟩
  | _ => none

/-- Take one token in. -/
def Builder.step? (builder : Builder) (token : Token) : Option Builder :=
  match builder.expecting, token with
  | .value, token => value? builder.frames token
  | .item, .closeArray => some (finish builder.frames (.array []))
  | .item, token => value? (.items [] :: builder.frames) token
  | .key finished, .string key => some ⟨builder.frames, .colon finished key⟩
  | .firstKey, .string key => some ⟨builder.frames, .colon [] key⟩
  | .firstKey, .closeObject => some (finish builder.frames (.object []))
  | .colon finished key, .colon =>
      some ⟨.members finished key :: builder.frames, .value⟩
  | .next document, .comma =>
      match builder.frames with
      | .items finished :: frames =>
          some ⟨.items (document :: finished) :: frames, .value⟩
      | .members finished key :: frames =>
          some ⟨frames, .key ((key, document) :: finished)⟩
      | [] => none
  | .next document, .closeArray =>
      match builder.frames with
      | .items finished :: frames =>
          some (finish frames (.array (document :: finished).reverse))
      | _ => none
  | .next document, .closeObject =>
      match builder.frames with
      | .members finished key :: frames =>
          some (finish frames (.object ((key, document) :: finished).reverse))
      | _ => none
  | _, _ => none

/-- The document that a token list spells. -/
def ofTokens? (tokens : List Token) : Option Document :=
  match tokens.foldlM Builder.step? ⟨[], .value⟩ with
  | some ⟨[], .next document⟩ => some document
  | _ => none

/-- Read a text. -/
def ofText? (text : String) : Option Document :=
  (Token.scan text).bind ofTokens?

end Document

end ControlLoop.Json
