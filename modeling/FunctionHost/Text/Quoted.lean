import FunctionHost.Bytes
import FunctionHost.Text.Unprintable
/-!
# Diagnostic texts

Records and strings are shown in one layout wherever a person reads them: strings in double
quotes with escapes, lists in brackets, records as a name and its fields in braces.  `quoted`
writes a string, `record` a record, and `openRecord` a record of which only some fields are shown.
-/
namespace FunctionHost
namespace Text

/-- **A character inside quotes**: the quote, the backslash and the usual controls have short
escapes, other characters that are not visible on their own are written by their number. -/
def quotedChar (c : Char) : List Char :=
  match c with
  | '"' => ['\\', '"']
  | '\\' => ['\\', '\\']
  | '\n' => ['\\', 'n']
  | '\r' => ['\\', 'r']
  | '\t' => ['\\', 't']
  | '\x00' => ['\\', '0']
  | c =>
    if isUnprintable c then
      '\\' :: 'u' :: '\x7b' :: (hexDigits c.toNat).toList ++ ['\x7d']
    else [c]

/-- A string in double quotes. -/
def quoted (text : String) : String :=
  "\"" ++ String.ofList (text.toList.flatMap quotedChar) ++ "\""

/-- A value that may be missing. -/
def optional (shown : Option String) : String :=
  match shown with
  | none => "None"
  | some value => "Some(" ++ value ++ ")"

/-- A list of shown values in brackets. -/
def list (shown : List String) : String := "[" ++ ", ".intercalate shown ++ "]"

/-- The fields of a record, each a name and a shown value. -/
def fields (shown : List (String × String)) : String :=
  ", ".intercalate (shown.map fun (name, value) => name ++ ": " ++ value)

/-- **A record**, all of whose fields are shown. -/
def record (name : String) (shown : List (String × String)) : String :=
  if shown.isEmpty then name else name ++ " \x7b " ++ fields shown ++ " \x7d"

/-- **A record with fields that are not shown**: two dots stand for them. -/
def openRecord (name : String) (shown : List (String × String)) : String :=
  if shown.isEmpty then name ++ " \x7b .. \x7d"
  else name ++ " \x7b " ++ fields shown ++ ", .. \x7d"

/-- The word for a truth value. -/
def truth (value : Bool) : String := if value then "true" else "false"

end Text
end FunctionHost
