import ClientGen.Pattern.Regex
import ClientGen.Unicode.Case

/-!
# Texts and binary data

A response body is text or binary data, as its media type tells. Case does not matter, and a
media type that is told to be text is not looked at as binary data.

Text is every `text/` type, every `application/` type that names a text format, every `+xml`
type and every type with a `charset` parameter. Binary data is every other `application/` type
and every `image/`, `audio/`, `video/`, `font/` and `multipart/` type.

## Main definitions

* `ResponseMode` — text or binary data.
* `ResponseMode.ofMediaType?` — the mode of a media type.
-/

set_option autoImplicit false

namespace ClientGen

/-- What a response body is. -/
inductive ResponseMode where
  /-- Text. -/
  | text
  /-- Binary data. -/
  | binary
  deriving DecidableEq, Repr, Inhabited

/-! ## Reading a media type -/

namespace MediaType

/-- Whether two characters differ in case only. -/
def sameLetter (c d : Char) : Bool := Unicode.foldCase c = Unicode.foldCase d

/-- The text after `word`, if it begins with it up to case. -/
def after? : List Char → List Char → Option (List Char)
  | [], text => some text
  | _ :: _, [] => none
  | c :: word, d :: text => if sameLetter c d then after? word text else none

/-- Whether the text begins with `word` up to case. -/
def beginsWith (word : String) (text : List Char) : Bool := (after? word.toList text).isSome

/-- Whether the text begins with `word` and the word ends there. -/
def beginsWithWord (word : List Char) (text : List Char) : Bool :=
  (after? word text).any fun rest => !rest.head?.any Pattern.isWord

/-- Whether `word` is one of the words of the text, when `inWord` tells whether a word character
stands before the text. -/
def hasWordFrom (word : List Char) : Bool → List Char → Bool
  | _, [] => false
  | inWord, c :: rest =>
    (!inWord && beginsWithWord word (c :: rest)) || hasWordFrom word (Pattern.isWord c) rest

/-- Whether `word` is one of the words of the text. -/
def hasWord (text : List Char) (word : String) : Bool := hasWordFrom word.toList false text

/-- The first line of a text. -/
def firstLine (text : List Char) : List Char := text.takeWhile (· ≠ '\n')

/-- The words that tell that an application type is text. -/
def textFormats : List String :=
  ["json", "xml", "sql", "graphql", "javascript", "x-www-form-urlencoded"]

/-- Whether this is an application type that names a text format. -/
def isTextApplication (text : List Char) : Bool :=
  (after? "application/".toList text).any fun rest => textFormats.any (hasWord (firstLine rest))

/-- Whether a condition holds of the text from some character on. -/
def fromSome (condition : List Char → Bool) : List Char → Bool
  | [] => condition []
  | c :: rest => condition (c :: rest) || fromSome condition rest

/-- Whether the suffix `+xml` occurs. -/
def hasXmlSuffix (text : List Char) : Bool :=
  fromSome (beginsWithWord "+xml".toList) text

/-- Whether a parameter names a `charset`. -/
def hasCharset (text : List Char) : Bool :=
  text |> fromSome fun
    | ';' :: rest => hasWord (firstLine rest) "charset"
    | _ => false

/-- Whether the media type is one of a text. -/
def isText (text : List Char) : Bool :=
  isTextApplication text || beginsWith "text/" text || hasXmlSuffix text || hasCharset text

/-- The beginnings of the media types of binary data. -/
def binaryTypes : List String :=
  ["image/", "audio/", "video/", "font/", "application/", "multipart/"]

/-- Whether the media type is one of binary data, unless it is one of a text. -/
def isBinary (text : List Char) : Bool := binaryTypes.any (beginsWith · text)

end MediaType

namespace ResponseMode

/-- The name of a mode. -/
def name : ResponseMode → String
  | .text => "string"
  | .binary => "binary"

/-- The mode of a body with the given media type. -/
def ofMediaType? (mediaType : String) : Option ResponseMode :=
  let chars := mediaType.toList
  if MediaType.isText chars then some .text
  else if MediaType.isBinary chars then some .binary
  else none

end ResponseMode

end ClientGen
