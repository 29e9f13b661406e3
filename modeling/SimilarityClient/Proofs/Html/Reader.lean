import SimilarityClient.Html.Markup
import SimilarityClient.Json.Text

/-! # Reading markup

A reader goes over a page with one step for every character. An angle bracket
opens a tag and closes it, unless it stands in a quoted value; what is not in a
tag is text, in which references stand for characters. A page is read as the
tags and texts that it was made of, whatever the texts and values hold.
-/

namespace SimilarityClient

namespace Markup

def ofHexadecimal? (digits : List Char) : Option Char :=
  match digits.mapM Json.hexDigit? with
  | none | some [] => none
  | some ds =>
    let code := ds.foldl (fun n d => 16 * n + d) 0
    if code.isValidChar then some (Char.ofNat code) else none

/-- The character that the text between an ampersand and a semicolon stands for. -/
def reference? : List Char → Option Char
  | ['a', 'm', 'p'] => some '&'
  | ['l', 't'] => some '<'
  | ['g', 't'] => some '>'
  | ['q', 'u', 'o', 't'] => some '"'
  | ['a', 'p', 'o', 's'] => some '\''
  | '#' :: 'x' :: digits => ofHexadecimal? digits
  | _ => none

/-- Resolves references. What stands behind an ampersand is held until it is known what it is. -/
def unescapeFrom : Option (List Char) → List Char → List Char
  | none, [] => []
  | some held, [] => '&' :: held
  | none, c :: r => if c = '&' then unescapeFrom (some []) r else c :: unescapeFrom none r
  | some held, c :: r =>
    if c = '&' then '&' :: held ++ unescapeFrom (some []) r
    else if c = ';' then
      ((reference? held).map ([·])).getD ('&' :: held ++ [';']) ++ unescapeFrom none r
    else unescapeFrom (some (held ++ [c])) r

def unescape (s : List Char) : List Char := unescapeFrom none s

theorem unescapeFrom_escapedText (c : Char) (r : List Char) :
    unescapeFrom none (escapedText c ++ r) = c :: unescapeFrom none r := by
  unfold escapedText
  split
  · rfl
  · rfl
  · rfl
  · rfl
  · rfl
  · rfl
  · rename_i h _ _ _ _ _
    exact if_neg h

theorem unescapeFrom_escapedValue (c : Char) (r : List Char) :
    unescapeFrom none (escapedValue c ++ r) = c :: unescapeFrom none r := by
  unfold escapedValue
  split
  · rfl
  · rfl
  · rfl
  · rfl
  · rename_i h _ _ _
    exact if_neg h

theorem unescape_flatMap_of {escaped : Char → List Char}
    (he : ∀ c r, unescapeFrom none (escaped c ++ r) = c :: unescapeFrom none r) (s : List Char) :
    unescape (s.flatMap escaped) = s := by
  induction s with
  | nil => rfl
  | cons c s ih =>
    rw [List.flatMap_cons, unescape, he]
    exact congrArg _ ih

theorem unescape_flatMap (s : List Char) : unescape (s.flatMap escapedText) = s :=
  unescape_flatMap_of unescapeFrom_escapedText s

theorem unescape_flatMap_value (s : List Char) : unescape (s.flatMap escapedValue) = s :=
  unescape_flatMap_of unescapeFrom_escapedValue s

/-- What is read of a page: what stands between two angle brackets, and the texts in between. -/
inductive Token
  | tag (inside : List Char)
  | text (s : List Char)
  deriving DecidableEq, Repr

namespace Token

def tag? : Token → Option (List Char)
  | tag inside => some inside
  | _ => none

def text? : Token → Option String
  | text s => some (String.ofList s)
  | _ => none

def ofText (s : List Char) : List Token := if s = [] then [] else [text s]

end Token

inductive Mode
  | outside | inside | quoted
  deriving DecidableEq, Repr

/-- `held` is what has been read of the text or tag that is not finished. -/
def tokensFrom : Mode → List Char → List Char → List Token
  | .outside, held, [] => Token.ofText (unescape held)
  | _, _, [] => []
  | .outside, held, c :: r =>
    if c = '<' then Token.ofText (unescape held) ++ tokensFrom .inside [] r
    else tokensFrom .outside (held ++ [c]) r
  | .inside, held, c :: r =>
    if c = '>' then .tag held :: tokensFrom .outside [] r
    else tokensFrom (if c = '"' then .quoted else .inside) (held ++ [c]) r
  | .quoted, held, c :: r => tokensFrom (if c = '"' then .inside else .quoted) (held ++ [c]) r

def tokens (page : String) : List Token := tokensFrom .outside [] page.toList

def tags (page : String) : List (List Char) := (tokens page).filterMap Token.tag?

/-- The texts of a page that are not empty, with their references resolved. -/
def texts (page : String) : List String := (tokens page).filterMap Token.text?

variable {s held r : List Char}

theorem tokensFrom_outside (h : '<' ∉ s) :
    tokensFrom .outside held (s ++ r) = tokensFrom .outside (held ++ s) r := by
  induction s generalizing held with
  | nil => simp
  | cons c s ih =>
    rw [List.mem_cons, not_or] at h
    rw [List.cons_append, tokensFrom, if_neg (Ne.symm h.1), ih h.2]
    simp

theorem tokensFrom_inside (h : '>' ∉ s) (hq : '"' ∉ s) :
    tokensFrom .inside held (s ++ r) = tokensFrom .inside (held ++ s) r := by
  induction s generalizing held with
  | nil => simp
  | cons c s ih =>
    rw [List.mem_cons, not_or] at h hq
    rw [List.cons_append, tokensFrom, if_neg (Ne.symm h.1), if_neg (Ne.symm hq.1), ih h.2 hq.2]
    simp

theorem tokensFrom_quoted (h : '"' ∉ s) :
    tokensFrom .quoted held (s ++ r) = tokensFrom .quoted (held ++ s) r := by
  induction s generalizing held with
  | nil => simp
  | cons c s ih =>
    rw [List.mem_cons, not_or] at h
    rw [List.cons_append, tokensFrom, if_neg (Ne.symm h.1), ih h.2]
    simp

def isMark (c : Char) : Bool := c == '<' || c == '>' || c == '"'

/-- The marks of a page, in order. -/
def marks (page : String) : List Char := page.toList.filter isMark

/-- The references that characters are written as. -/
def references : List (List Char) :=
  ["&amp;".toList, "&lt;".toList, "&gt;".toList, "&quot;".toList, "&#x27;".toList,
    "&#x2F;".toList]

theorem isMark_of_mem_references : ∀ s ∈ references, ∀ d ∈ s, isMark d = false := by
  simp [references, isMark]

theorem escapedText_cases (c : Char) :
    escapedText c ∈ references ∨ escapedText c = [c] ∧ isMark c = false := by
  unfold escapedText
  split
  case h_7 => exact .inr ⟨rfl, by simp_all [isMark]⟩
  all_goals exact .inl (by decide)

theorem escapedValue_cases (c : Char) :
    escapedValue c ∈ references ∨ escapedValue c = [c] ∧ isMark c = false := by
  unfold escapedValue
  split
  case h_5 => exact .inr ⟨rfl, by simp_all [isMark]⟩
  all_goals exact .inl (by decide)

theorem isMark_of_mem_escaped {escaped : Char → List Char}
    (he : ∀ c, escaped c ∈ references ∨ escaped c = [c] ∧ isMark c = false) (s : List Char) :
    ∀ d ∈ s.flatMap escaped, isMark d = false := by
  intro d hd
  obtain ⟨c, -, hc⟩ := List.mem_flatMap.1 hd
  rcases he c with hr | ⟨hs, hm⟩
  · exact isMark_of_mem_references _ hr d hc
  · rw [hs] at hc
    exact List.mem_singleton.1 hc ▸ hm

theorem not_mem_escapedText (s : List Char) : '<' ∉ s.flatMap escapedText := fun h => by
  have := isMark_of_mem_escaped escapedText_cases s _ h
  cases this

theorem not_mem_escapedValue (s : List Char) : '"' ∉ s.flatMap escapedValue := fun h => by
  have := isMark_of_mem_escaped escapedValue_cases s _ h
  cases this

/-- A name is written as it is, so that it must not hold any marks. -/
def isPlainName (s : String) : Bool := s.toList.all fun c => !isMark c

theorem not_mem_of_isPlainName {name : String} (h : isPlainName name = true) :
    '<' ∉ name.toList ∧ '>' ∉ name.toList ∧ '"' ∉ name.toList := by
  rw [isPlainName, List.all_eq_true] at h
  refine ⟨fun hm => ?_, fun hm => ?_, fun hm => ?_⟩ <;>
  · have := h _ hm
    cases this

end Markup

namespace Attribute

def isPlain : Attribute → Bool
  | value name _ | flag name _ => Markup.isPlainName name

def blank : Attribute → Attribute
  | value name _ => value name ""
  | a => a

end Attribute

namespace Piece

def isPlain : Piece → Bool
  | opening tag attributes | void tag attributes =>
    Markup.isPlainName tag && attributes.all Attribute.isPlain
  | closing tag => Markup.isPlainName tag
  | text _ => true

/-- What stands between the brackets of a tag. -/
def inside? : Piece → Option (List Char)
  | opening tag attributes => some (tag.toList ++ attributes.flatMap Markup.writeAttribute)
  | closing tag => some ('/' :: tag.toList)
  | void tag attributes =>
    some (tag.toList ++ attributes.flatMap Markup.writeAttribute ++ ['/'])
  | text _ => none

/-- The piece without its text or the values of its attributes. -/
def blank : Piece → Piece
  | opening tag attributes => opening tag (attributes.map Attribute.blank)
  | void tag attributes => void tag (attributes.map Attribute.blank)
  | text _ => text ""
  | p => p

end Piece

namespace Markup

variable {m : Markup} {held r : List Char}

/-- The tags and texts of markup; texts side by side are one text. -/
def tokensOf (held : List Char) : Markup → List Token
  | [] => Token.ofText held
  | p :: m =>
    match p with
    | .text s => tokensOf (held ++ s.toList) m
    | p => Token.ofText held ++ (p.inside?.map Token.tag).toList ++ tokensOf [] m

@[simp] theorem tokensOf_text (held : List Char) (s : String) (m : Markup) :
    tokensOf held (.text s :: m) = tokensOf (held ++ s.toList) m := rfl

theorem tokensOf_tag {p : Piece} {inside : List Char} (hi : p.inside? = some inside)
    (held : List Char) (m : Markup) :
    tokensOf held (p :: m) = Token.ofText held ++ .tag inside :: tokensOf [] m := by
  cases p <;> simp_all [Piece.inside?, tokensOf]

theorem exists_text_of_inside? {p : Piece} (hi : p.inside? = none) : ∃ s, p = .text s := by
  cases p <;> simp_all [Piece.inside?]

theorem tokensFrom_attribute {a : Attribute} (ha : a.isPlain = true) :
    tokensFrom .inside held (writeAttribute a ++ r) =
      tokensFrom .inside (held ++ writeAttribute a) r := by
  cases a with
  | value name value =>
    obtain ⟨-, hn, hq⟩ := not_mem_of_isPlainName ha
    have hb : '>' ∉ ' ' :: name.toList ++ ['='] := by simpa using hn
    have hbq : '"' ∉ ' ' :: name.toList ++ ['='] := by simpa using hq
    have hw : ∀ t, writeAttribute (.value name value) ++ t = (' ' :: name.toList ++ ['=']) ++
        '"' :: (value.toList.flatMap escapedValue ++ '"' :: t) := by
      intro t
      simp [writeAttribute]
    rw [hw, tokensFrom_inside hb hbq, tokensFrom, if_neg (by decide), if_pos rfl,
      tokensFrom_quoted (not_mem_escapedValue _), tokensFrom, if_pos rfl]
    have he := hw []
    rw [List.append_nil] at he
    rw [he]
    simp
  | flag name present =>
    obtain ⟨-, hn, hq⟩ := not_mem_of_isPlainName ha
    cases present with
    | false => simp [writeAttribute]
    | true =>
      exact tokensFrom_inside (by simpa [writeAttribute] using hn)
        (by simpa [writeAttribute] using hq)

theorem tokensFrom_attributes {attributes : List Attribute}
    (ha : ∀ a ∈ attributes, a.isPlain = true) :
    tokensFrom .inside held (attributes.flatMap writeAttribute ++ r) =
      tokensFrom .inside (held ++ attributes.flatMap writeAttribute) r := by
  induction attributes generalizing held with
  | nil => simp
  | cons a attributes ih =>
    rw [List.flatMap_cons, List.append_assoc, tokensFrom_attribute (ha a List.mem_cons_self),
      ih fun b hb => ha b (List.mem_cons_of_mem _ hb), List.append_assoc]

theorem tokensFrom_tag {p : Piece} {inside : List Char} (hp : p.isPlain = true)
    (hi : p.inside? = some inside) :
    tokensFrom .outside held (writePiece p ++ r) =
      Token.ofText (unescape held) ++ .tag inside :: tokensFrom .outside [] r := by
  cases p with
  | opening tag attributes =>
    cases hi
    rw [Piece.isPlain, Bool.and_eq_true, List.all_eq_true] at hp
    obtain ⟨-, hn, hq⟩ := not_mem_of_isPlainName hp.1
    have hw : writePiece (.opening tag attributes) ++ r =
        '<' :: (tag.toList ++ (attributes.flatMap writeAttribute ++ '>' :: r)) := by
      simp [writePiece]
    rw [hw, tokensFrom, if_pos rfl, tokensFrom_inside hn hq, tokensFrom_attributes hp.2, tokensFrom,
      if_pos rfl, List.nil_append]
  | closing tag =>
    cases hi
    obtain ⟨-, hn, hq⟩ := not_mem_of_isPlainName hp
    have hw : writePiece (.closing tag) ++ r = '<' :: (('/' :: tag.toList) ++ '>' :: r) := by
      simp [writePiece]
    rw [hw, tokensFrom, if_pos rfl, tokensFrom_inside (by simpa using hn) (by simpa using hq),
      tokensFrom, if_pos rfl, List.nil_append]
  | void tag attributes =>
    cases hi
    rw [Piece.isPlain, Bool.and_eq_true, List.all_eq_true] at hp
    obtain ⟨-, hn, hq⟩ := not_mem_of_isPlainName hp.1
    have hw : writePiece (.void tag attributes) ++ r =
        '<' :: (tag.toList ++ (attributes.flatMap writeAttribute ++ (['/'] ++ '>' :: r))) := by
      simp [writePiece]
    rw [hw, tokensFrom, if_pos rfl, tokensFrom_inside hn hq, tokensFrom_attributes hp.2,
      tokensFrom_inside (by decide) (by decide), tokensFrom, if_pos rfl, List.nil_append]
  | text s => cases hi

theorem tokensFrom_write (hm : ∀ p ∈ m, p.isPlain = true) (held : List Char) :
    tokensFrom .outside (held.flatMap escapedText) (m.flatMap writePiece) = tokensOf held m := by
  induction m generalizing held with
  | nil => rw [List.flatMap_nil, tokensFrom, unescape_flatMap, tokensOf]
  | cons p m ih =>
    have ih := ih fun q hq => hm q (List.mem_cons_of_mem _ hq)
    rw [List.flatMap_cons]
    cases hi : p.inside? with
    | none =>
      obtain ⟨s, rfl⟩ := exists_text_of_inside? hi
      rw [writePiece, tokensFrom_outside (not_mem_escapedText _), ← List.flatMap_append, ih,
        tokensOf_text]
    | some inside =>
      rw [tokensFrom_tag (hm p List.mem_cons_self) hi, unescape_flatMap, tokensOf_tag hi, ← ih []]
      rfl

/-- A page of markup with plain names is read as its tags and texts. -/
theorem tokens_write (hm : m.all Piece.isPlain = true) : tokens (write m) = tokensOf [] m := by
  rw [tokens, write, String.toList_ofList]
  exact tokensFrom_write (List.all_eq_true.1 hm) []

theorem filterMap_tag?_ofText (s : List Char) :
    (Token.ofText s).filterMap Token.tag? = [] := by
  unfold Token.ofText
  split <;> rfl

theorem filterMap_tag?_tokensOf (held : List Char) (m : Markup) :
    (tokensOf held m).filterMap Token.tag? = m.filterMap Piece.inside? := by
  induction m generalizing held with
  | nil => exact filterMap_tag?_ofText held
  | cons p m ih =>
    cases hi : p.inside? with
    | none =>
      obtain ⟨s, rfl⟩ := exists_text_of_inside? hi
      rw [tokensOf_text, ih, List.filterMap_cons, hi]
    | some inside =>
      rw [tokensOf_tag hi, List.filterMap_append, filterMap_tag?_ofText, List.nil_append,
        List.filterMap_cons, List.filterMap_cons, ih, hi]
      rfl

theorem tags_write (hm : m.all Piece.isPlain = true) :
    tags (write m) = m.filterMap Piece.inside? := by
  rw [tags, tokens_write hm, filterMap_tag?_tokensOf]

def shownText (s : List Char) : List String := if s = [] then [] else [String.ofList s]

/-- The texts of markup, behind a text that has been held. -/
def textsOf (held : List Char) (m : Markup) : List String :=
  (tokensOf held m).filterMap Token.text?

theorem texts_write (hm : m.all Piece.isPlain = true) : texts (write m) = textsOf [] m := by
  rw [texts, tokens_write hm, textsOf]

theorem filterMap_text?_ofText (s : List Char) :
    (Token.ofText s).filterMap Token.text? = shownText s := by
  unfold Token.ofText shownText
  split <;> rfl

@[simp] theorem shownText_nil : shownText [] = [] := rfl

theorem shownText_toList (s : String) : shownText s.toList = if s = "" then [] else [s] := by
  simp only [shownText, String.toList_eq_nil_iff, String.ofList_toList]

@[simp] theorem textsOf_nil (held : List Char) : textsOf held [] = shownText held :=
  filterMap_text?_ofText held

@[simp] theorem textsOf_text (held : List Char) (s : String) (m : Markup) :
    textsOf held (.text s :: m) = textsOf (held ++ s.toList) m := rfl

theorem textsOf_tag {p : Piece} {inside : List Char} (hi : p.inside? = some inside)
    (held : List Char) (m : Markup) : textsOf held (p :: m) = shownText held ++ textsOf [] m := by
  rw [textsOf, tokensOf_tag hi, List.filterMap_append, filterMap_text?_ofText]
  rfl

@[simp] theorem textsOf_opening (held : List Char) (tag : String) (attributes : List Attribute)
    (m : Markup) : textsOf held (.opening tag attributes :: m) = shownText held ++ textsOf [] m :=
  textsOf_tag rfl held m

@[simp] theorem textsOf_closing (held : List Char) (tag : String) (m : Markup) :
    textsOf held (.closing tag :: m) = shownText held ++ textsOf [] m :=
  textsOf_tag rfl held m

theorem filter_escaped {escaped : Char → List Char}
    (he : ∀ c, escaped c ∈ references ∨ escaped c = [c] ∧ isMark c = false) (s : List Char) :
    (s.flatMap escaped).filter isMark = [] := by
  rw [List.filter_eq_nil_iff]
  intro d hd
  rw [isMark_of_mem_escaped he s d hd]
  simp

theorem filter_writeAttribute (a : Attribute) :
    (writeAttribute a).filter isMark = (writeAttribute a.blank).filter isMark := by
  cases a with
  | value name value =>
    simp only [writeAttribute, Attribute.blank, List.filter_append,
      filter_escaped escapedValue_cases]
  | flag name present => rfl

theorem filter_writeAttributes (attributes : List Attribute) :
    (attributes.flatMap writeAttribute).filter isMark =
      ((attributes.map Attribute.blank).flatMap writeAttribute).filter isMark := by
  induction attributes with
  | nil => rfl
  | cons a attributes ih =>
    rw [List.map_cons, List.flatMap_cons, List.flatMap_cons, List.filter_append,
      List.filter_append, filter_writeAttribute, ih]

theorem filter_writePiece (p : Piece) :
    (writePiece p).filter isMark = (writePiece p.blank).filter isMark := by
  cases p with
  | opening tag attributes =>
    simp only [writePiece, Piece.blank, List.filter_append, filter_writeAttributes attributes]
  | closing tag => rfl
  | void tag attributes =>
    simp only [writePiece, Piece.blank, List.filter_append, filter_writeAttributes attributes]
  | text s =>
    simp only [writePiece, Piece.blank, filter_escaped escapedText_cases]

/-- The marks of a page are those of its pieces without their texts and values. -/
theorem marks_write (m : Markup) : marks (write m) = marks (write (m.map Piece.blank)) := by
  simp only [marks, write, String.toList_ofList]
  induction m with
  | nil => rfl
  | cons p m ih =>
    rw [List.map_cons, List.flatMap_cons, List.flatMap_cons, List.filter_append,
      List.filter_append, filter_writePiece, ih]

end Markup

end SimilarityClient
