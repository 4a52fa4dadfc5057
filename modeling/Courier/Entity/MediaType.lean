import Courier.Text.Ascii
import Courier.Text.Blank
import Courier.Text.Split

/-!
# Media types

A content type is a media type with parameters after semicolons. Only the media type, in
any case of letters and between blanks, chooses a codec. Content is shown as text if it
is JSON, if it is of a text type or if it names a character set ; all other content is
binary.
-/

namespace Courier.MediaType

def json : String := "application/json"
def urlEncoded : String := "application/x-www-form-urlencoded"
def plainText : String := "text/plain"

/-- The media type of a content type, in small letters. -/
def essence (contentType : String) : String :=
  let front := contentType.toList.takeWhile (· ≠ ';')
  String.ofList ((Text.trimChars front).map Ascii.lower)

/-- Whether a parameter is the character set. -/
def isCharset (parameter : List Char) : Bool :=
  (Text.trimChars (parameter.takeWhile (· ≠ '='))).map Ascii.lower = "charset".toList

/-- Whether a content type names a character set. -/
def hasCharset (contentType : String) : Bool :=
  (Text.splitAt ';' contentType.toList).tail.any isCharset

/-- Whether content of a type is not text. -/
def isBinary (contentType : String) : Bool :=
  let essence := essence contentType
  if essence = "" then true
  else if essence = json ∨ "text/".toList.isPrefixOf essence.toList then false
  else !hasCharset contentType

end Courier.MediaType
