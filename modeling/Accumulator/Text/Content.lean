/-!
# Contents

What a file or a stream holds is text if its bytes are the UTF-8 encoding of one, and plain bytes
otherwise.
-/
namespace Accumulator.Text

inductive Content where
  | text (content : String)
  /-- Bytes that encode no text. -/
  | binary (bytes : ByteArray)

/-- What is said where bytes should have been text. -/
def notText : String := "stream did not contain valid UTF-8"

/-- The text that the bytes encode. -/
def decode (bytes : ByteArray) : Except String String :=
  match String.fromUTF8? bytes with
  | some content => .ok content
  | none => .error notText

namespace Content

def empty : Content := .text ""

def ofBytes (bytes : ByteArray) : Content :=
  match String.fromUTF8? bytes with
  | some content => .text content
  | none => .binary bytes

def asText : Content → Except String String
  | .text content => .ok content
  | .binary _ => .error notText

end Content

end Accumulator.Text
