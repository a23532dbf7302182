import PhpCompletion.Json.Reader
import PhpCompletion.Json.Writer
import PhpCompletion.Json.Display
import PhpCompletion.Fault
import PhpCompletion.Text.Blank

/-!
# Request and reply envelopes

Every exchange with the completion service is one JSON document each way. A request is the
object `{"action": …, "parameters": …}` in compact form. A reply carries its result in
`parameters.value`; a reply whose action is `error` reports a failure of the service, with
its message in `parameters.message`.

Reading a reply checks, in this order: that the text is not blank, that it is JSON, that it is
an object, that it has a `parameters` object, that its action is not `error`, and that it has
a `value` object. The first check that fails names the failure.
-/

namespace PhpCompletion

namespace ServiceFault

def emptyReply : ServiceFault := .malformed (Text.ofString "Empty response from phpactor.")

def notJson (detail : String) : ServiceFault :=
  .malformed (Text.ofString ("Response is not valid JSON: " ++ detail))

def rootNotObject (typeName : String) : ServiceFault :=
  .malformed (Text.ofString ("Response root must be an object, found " ++ typeName ++ "."))

def noParameters : ServiceFault :=
  .malformed (Text.ofString "Response has no 'parameters' object.")

def noValue : ServiceFault :=
  .malformed (Text.ofString "Response has no 'parameters.value' object.")

def reported (message : Text) : ServiceFault :=
  .unavailable (.str (Text.ofString "service_error")) message

end ServiceFault

namespace Envelope

/-- A request: the action in plain text (empty for a false value) and the parameters when
they are an object, else an empty object. -/
def payload (action parameters : Json) : Json :=
  let params := if parameters.isObject then parameters else .obj []
  .obj [(Text.ofString "action", .str action.displayOrEmpty), (Text.ofString "parameters", params)]

def encode (action parameters : Json) : Text := Json.write .compact (payload action parameters)

/-- The text of a request written with `room` places of the call stack free, of which the
writing takes one for itself; parameters that nest too deep fail. -/
def encodeWithin (room : Nat) (action parameters : Json) : Except Fault Text :=
  match Json.writeWithin (room - 1) .compact (payload action parameters) with
  | some t => .ok t
  | none => .error .tooDeepToWrite

def asciiLower (t : Text) : Text :=
  ⟨t.points.map fun c => if 65 ≤ c ∧ c ≤ 90 then c + 32 else c⟩

/-- The fields of the `value` object of a reply, or the failure it reports or shows, when
decoding is called with `room` places of the call stack free; it takes one for itself. A reply
nested too deep to be read in the room left fails as such, not as a failure of the service. -/
def decode (room : Nat) (raw : Text) : Except Fault (List (Text × Json)) := do
  let text := raw.trim
  if text.isEmpty then throw (.service .emptyReply)
  let doc ← match Json.read (room - 1) text with
    | .ok v => pure v
    | .error (.tooDeep c) => throw (.tooDeep c)
    | .error e => throw (.service (.notJson (e.message text)))
  let fields ← match doc with
    | .obj fs => pure fs
    | v => throw (.service (.rootNotObject v.typeName))
  let params ← match Json.lookup fields (Text.ofString "parameters") with
    | some (.obj ps) => pure ps
    | _ => throw (.service .noParameters)
  let action := ((Json.lookup fields (Text.ofString "action")).getD .null).displayOrEmpty
  if asciiLower action.trim = Text.ofString "error" then
    let msg := (Json.orElse ((Json.lookup params (Text.ofString "message")).getD .null)
      (.str (Text.ofString "phpactor reported an error"))).display
    throw (.service (.reported msg.trim))
  match Json.lookup params (Text.ofString "value") with
  | some (.obj vs) => pure vs
  | _ => throw (.service .noValue)

end Envelope

end PhpCompletion
