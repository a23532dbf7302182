import PhpCompletion.Text.Utf8
import PhpCompletion.Text.Printable
import PhpCompletion.Json.Reader
import PhpCompletion.Json.Display
import PhpCompletion.Text.Template

/-!
# Failures

Every way an operation of this library can fail, by cause. The completion service fails in
three families (`ServiceFault`); reading a value as an integer fails for four reasons
(`IntegerFault`); the remaining causes belong to the editor, the command line and the files.

Each failure has a message, and a type name that reports and answers show; a service failure
also has a kind, the key under which a session reports it once. Failures of the system on a
path carry the error number the system gives (`OsError`).
-/

namespace PhpCompletion

/-- A failure of the completion service. Its kind is a value: the service's own failures have
a text, but a kind given from outside may be any value. -/
inductive ServiceFault where
  /-- The service could not be reached or refused the request. -/
  | unavailable (kind : Json) (message : Text)
  /-- The reply lacks what a reply must hold. -/
  | malformed (message : Text)
  /-- Any other failure of the service. -/
  | general (kind : Json) (message : Text)

namespace ServiceFault

def kind : ServiceFault → Json
  | .unavailable k _ => k
  | .malformed _ => .str (Text.ofString "malformed")
  | .general k _ => k

def message : ServiceFault → Text
  | .unavailable _ m => m
  | .malformed m => m
  | .general _ m => m

def typeName : ServiceFault → String
  | .unavailable _ _ => "ServiceUnavailable"
  | .malformed _ => "MalformedResponse"
  | .general _ _ => "PhpactorError"

end ServiceFault

/-- Why a value is not read as an integer. -/
inductive IntegerFault where
  /-- The text is not a decimal integer. -/
  | invalidLiteral (t : Text)
  /-- The decimal integer has more digits than the limit. -/
  | tooManyDigits (count : Nat)
  /-- The number is not a number. -/
  | notANumber
  /-- The number is an infinity. -/
  | infinite
  /-- The value is of a kind that has no integer, named. -/
  | wrongKind (typeName : String)
  deriving DecidableEq, Repr

namespace IntegerFault

/-- The longest part of a literal that a message quotes. -/
def quoteLimit : Nat := 200

def message : IntegerFault → Text
  | .invalidLiteral t =>
      Text.ofString "invalid literal for int() with base 10: " ++ t.quoted.take quoteLimit
  | .tooManyDigits n =>
      Text.ofString ("Exceeds the limit (4300 digits) for integer string conversion: value has " ++
        toString n ++ " digits; use sys.set_int_max_str_digits() to increase the limit")
  | .notANumber => Text.ofString "cannot convert float NaN to integer"
  | .infinite => Text.ofString "cannot convert float infinity to integer"
  | .wrongKind k => Text.ofString
      ("int() argument must be a string, a bytes-like object or a real number, not '" ++ k ++ "'")

def typeName : IntegerFault → String
  | .infinite => "OverflowError"
  | .wrongKind _ => "TypeError"
  | _ => "ValueError"

end IntegerFault

/-- Why the system refused a path. -/
inductive OsError where
  /-- No such file or directory. -/
  | notFound
  /-- A directory was opened as a file. -/
  | isDirectory
  /-- A part of the path before its end is a file. -/
  | notDirectory
  /-- A part of the path, or the whole path, is longer than the system takes. -/
  | nameTooLong
  deriving DecidableEq, Repr

namespace OsError

def number : OsError → Nat
  | .notFound => 2
  | .notDirectory => 20
  | .isDirectory => 21
  | .nameTooLong => 36

def words : OsError → String
  | .notFound => "No such file or directory"
  | .notDirectory => "Not a directory"
  | .isDirectory => "Is a directory"
  | .nameTooLong => "File name too long"

/-- The name of the failure's type: the error numbers that have a type of their own name it. -/
def typeName : OsError → String
  | .notFound => "FileNotFoundError"
  | .notDirectory => "NotADirectoryError"
  | .isDirectory => "IsADirectoryError"
  | .nameTooLong => "OSError"

/-- The message of the error on a path, the path quoted as it was handed over. -/
def message (e : OsError) (path : Text) : Text :=
  Text.ofString ("[Errno " ++ toString e.number ++ "] " ++ e.words ++ ": ") ++ path.quoted

end OsError

/-- The escape of a code point in a message on a single character: a backslash and `x` with
two digits below 256, `u` with four in the basic plane, `U` with eight beyond. -/
def pointEscape (c : Nat) : Text :=
  if c < 0x100 then ⟨[92, 120] ++ Text.hexPadded 2 c⟩
  else if c < 0x10000 then ⟨[92, 117] ++ Text.hexPadded 4 c⟩
  else ⟨[92, 85] ++ Text.hexPadded 8 c⟩

/-- Why an operation failed. -/
inductive Fault where
  /-- The completion service failed. -/
  | service (e : ServiceFault)
  /-- A value is not an integer. -/
  | integer (e : IntegerFault)
  /-- A cursor offset lies outside the text. -/
  | offsetOutside (offset : Int) (length : Nat)
  /-- A command-line option that takes a value came last. -/
  | missingValue (flag : Text)
  /-- There were fewer than two positional arguments; how many. -/
  | tooFewArguments (count : Nat)
  /-- There were more than two positional arguments. -/
  | tooManyArguments
  /-- A value was refused for the reason given. -/
  | refused (message : Text)
  /-- The request was cancelled. -/
  | cancelled (message : Text)
  /-- A receiver of candidates or a scripted service broke down. -/
  | crashed (message : Text)
  /-- No session is open for the buffer; the buffer's name in literal notation. -/
  | noSession (name : Text)
  /-- Nothing is known under a key, as it was given. -/
  | unknownKey (key : Json)
  /-- A file is not UTF-8. -/
  | undecodable (e : Text.Utf8Error)
  /-- An integer is too large for a binary64 number. -/
  | tooLargeForFloat
  /-- A value of the named kind lacks the named attribute (settings that are no object, a
  session that is not there). -/
  | noAttribute (typeName : String) (field : String)
  /-- A scripted service was asked to answer a request but none was made. -/
  | noPending
  /-- The system refused a path, named as it was handed over. -/
  | system (e : OsError) (path : Text)
  /-- A path holds a surrogate that has no byte form: the code points from `start` to before
  `stop` are surrogates, the first of them `first`. -/
  | unencodable (first : Nat) (start stop : Nat)
  /-- A value nests arrays and objects deeper than the reader goes. -/
  | tooDeep (container : Json.Container)
  /-- A value nests arrays and objects deeper than the writer goes. -/
  | tooDeepToWrite
  /-- A value of the named kind was used as a key, which it cannot be. -/
  | unhashable (typeName : String)
  /-- A cursor that is no integer was used to cut a text. -/
  | badSliceIndex
  /-- A number that is no integer, of the named kind, was used as a position in a list. -/
  | badListIndex (typeName : String)
  /-- An operator was applied to values of kinds it does not take. -/
  | unsupportedOperands (operator left right : String)
  /-- A text was used as a template to be filled with one integer, and could not be. -/
  | template (e : TemplateFault)

namespace Fault

def message : Fault → Text
  | .service e => e.message
  | .integer e => e.message
  | .offsetOutside o n => Text.ofString ("Offset " ++ toString o ++
      " is outside the source text (length " ++ toString n ++ ").")
  | .missingValue f => f ++ Text.ofString " needs a value"
  | .tooFewArguments n => Text.ofString
      ("not enough values to unpack (expected 2, got " ++ toString n ++ ")")
  | .tooManyArguments => Text.ofString "too many values to unpack (expected 2)"
  | .refused m => m
  | .cancelled m => m
  | .crashed m => m
  | .noSession n => Text.ofString "No completion session for buffer " ++ n
  | .unknownKey k => k.display
  | .undecodable e => e.message
  | .tooLargeForFloat => Text.ofString "int too large to convert to float"
  | .noAttribute k a => Text.ofString ("'" ++ k ++ "' object has no attribute '" ++ a ++ "'")
  | .noPending => Text.ofString "no request has been issued"
  | .system e p => e.message p
  | .unencodable c start stop =>
      if stop = start + 1 then
        Text.ofString "'utf-8' codec can't encode character '" ++ pointEscape c ++
          Text.ofString ("' in position " ++ toString start ++ ": surrogates not allowed")
      else
        Text.ofString ("'utf-8' codec can't encode characters in position " ++ toString start ++
          "-" ++ toString (stop - 1) ++ ": surrogates not allowed")
  | .tooDeep c => Text.ofString ((Json.ReadError.tooDeep c).message Text.empty)
  | .tooDeepToWrite => Text.ofString "maximum recursion depth exceeded while encoding a JSON object"
  | .unhashable k => Text.ofString ("unhashable type: '" ++ k ++ "'")
  | .badSliceIndex =>
      Text.ofString "slice indices must be integers or None or have an __index__ method"
  | .badListIndex k => Text.ofString ("list indices must be integers or slices, not " ++ k)
  | .unsupportedOperands o l r =>
      Text.ofString ("unsupported operand type(s) for " ++ o ++ ": '" ++ l ++ "' and '" ++ r ++ "'")
  | .template e => Text.ofString e.message

def typeName : Fault → String
  | .service e => e.typeName
  | .integer e => e.typeName
  | .offsetOutside _ _ | .missingValue _ | .tooFewArguments _ | .tooManyArguments
  | .refused _ => "ValueError"
  | .cancelled _ => "CancelledError"
  | .crashed _ => "RuntimeError"
  | .noSession _ | .unknownKey _ => "KeyError"
  | .undecodable _ => "UnicodeDecodeError"
  | .tooLargeForFloat => "OverflowError"
  | .noAttribute _ _ => "AttributeError"
  | .noPending => "NoPending"
  | .system e _ => e.typeName
  | .unencodable _ _ _ => "UnicodeEncodeError"
  | .tooDeep _ | .tooDeepToWrite => "RecursionError"
  | .template e => e.typeName
  | .unhashable _ | .badSliceIndex | .badListIndex _ | .unsupportedOperands _ _ _ => "TypeError"

def serviceKind? : Fault → Option Json
  | .service e => some e.kind
  | _ => none

/-- The key under which a session reports the failure: the plain text of the service's kind
when that kind is true in a condition, the type name otherwise. -/
def reportKind (f : Fault) : Text :=
  match f.serviceKind? with
  | some k => if k.truthy then k.display else Text.ofString f.typeName
  | none => Text.ofString f.typeName

def isValueFault : Fault → Bool
  | .integer e => e.typeName == "ValueError"
  | .offsetOutside _ _ | .missingValue _ | .tooFewArguments _ | .tooManyArguments
  | .refused _ | .undecodable _ | .unencodable _ _ _ => true
  | _ => false

/-- Whether a completion query that failed so is answered with no candidates: a failure of
the service or a value failure. Any other failure breaks the operation. -/
def isQueryFailure : Fault → Bool
  | .service _ => true
  | f => f.isValueFault

def isCancellation : Fault → Bool
  | .cancelled _ => true
  | _ => false

end Fault

end PhpCompletion
