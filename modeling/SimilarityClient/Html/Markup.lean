/-! # Markup

A page is a sequence of tags and texts. Texts and attribute values are escaped
where they are written.
-/

namespace SimilarityClient

/-- An attribute with a value, or one that is there or not. -/
inductive Attribute
  | value (name value : String)
  | flag (name : String) (present : Bool)
  deriving DecidableEq, Repr

/-- A piece of a page. A void tag has no end tag. -/
inductive Piece
  | opening (tag : String) (attributes : List Attribute)
  | closing (tag : String)
  | void (tag : String) (attributes : List Attribute)
  | text (s : String)
  deriving DecidableEq, Repr

abbrev Markup := List Piece

namespace Markup

def escapedText (c : Char) : List Char :=
  match c with
  | '&' => "&amp;".toList
  | '<' => "&lt;".toList
  | '>' => "&gt;".toList
  | '"' => "&quot;".toList
  | '\'' => "&#x27;".toList
  | '/' => "&#x2F;".toList
  | c => [c]

def escapedValue (c : Char) : List Char :=
  match c with
  | '&' => "&amp;".toList
  | '<' => "&lt;".toList
  | '>' => "&gt;".toList
  | '"' => "&quot;".toList
  | c => [c]

def writeAttribute : Attribute → List Char
  | .value name value =>
    ' ' :: name.toList ++ "=\"".toList ++ value.toList.flatMap escapedValue ++ ['"']
  | .flag name present => if present then ' ' :: name.toList else []

def writePiece : Piece → List Char
  | .opening tag attributes => '<' :: tag.toList ++ attributes.flatMap writeAttribute ++ ['>']
  | .closing tag => '<' :: '/' :: tag.toList ++ ['>']
  | .void tag attributes => '<' :: tag.toList ++ attributes.flatMap writeAttribute ++ ['/', '>']
  | .text s => s.toList.flatMap escapedText

def write (m : Markup) : String := String.ofList (m.flatMap writePiece)

def element (tag : String) (attributes : List Attribute) (inside : Markup) : Markup :=
  .opening tag attributes :: inside ++ [.closing tag]

def block (cls : String) (inside : Markup) : Markup := element "div" [.value "class" cls] inside

def plain (tag : String) (inside : Markup) : Markup := element tag [] inside

def text (s : String) : Markup := [.text s]

end Markup

end SimilarityClient
