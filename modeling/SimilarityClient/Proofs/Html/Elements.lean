import SimilarityClient.Proofs.Html.Reader

/-! # Reading elements

The inside of a tag is read as a name and attributes, with one step for every
character. Attributes have a value in quotes or none. A page with proper names
is read as the elements that it was made of, whatever their values and texts hold.
-/

namespace SimilarityClient

namespace Markup

/-- What ends a name inside a tag. -/
def divides (c : Char) : Bool := c == ' ' || c == '\t' || c == '\n' || c == '\r' || c == '/'

/-- A name that is read as it is written. -/
def isName (s : String) : Bool :=
  !s.toList.isEmpty && s.toList.all fun c => !isMark c && !divides c && c != '='

end Markup

namespace Attribute

def isPresent : Attribute → Bool
  | value _ _ => true
  | flag _ present => present

def isNamed : Attribute → Bool
  | value name _ | flag name _ => Markup.isName name

end Attribute

namespace Markup

/-- Where a reader is inside a tag, with what it holds of an attribute. -/
inductive AttributeMode
  | between
  | name (held : List Char)
  | equals (name : List Char)
  | value (name held : List Char)

def attributesFrom : AttributeMode → List Char → List Attribute
  | .name held, [] => [.flag (String.ofList held) true]
  | _, [] => []
  | .between, c :: r =>
    if divides c then attributesFrom .between r else attributesFrom (.name [c]) r
  | .name held, c :: r =>
    if c = '=' then attributesFrom (.equals held) r
    else if divides c then .flag (String.ofList held) true :: attributesFrom .between r
    else attributesFrom (.name (held ++ [c])) r
  | .equals name, c :: r => attributesFrom (if c = '"' then .value name [] else .equals name) r
  | .value name held, c :: r =>
    if c = '"' then
      .value (String.ofList name) (String.ofList (unescape held)) :: attributesFrom .between r
    else attributesFrom (.value name (held ++ [c])) r

/-- A rest that does not go on with a name. -/
def Divided (r : List Char) : Prop := ∀ c ∈ r.head?, divides c = true

variable {s held name r : List Char} {tag : String} {a : Attribute} {attributes : List Attribute}
  {m : Markup}

theorem isName_iff : isName tag = true ↔
    tag.toList ≠ [] ∧ ∀ c ∈ tag.toList, isMark c = false ∧ divides c = false ∧ c ≠ '=' := by
  simp [isName, and_assoc]

theorem isPlainName_of_isName (h : isName tag = true) : isPlainName tag = true := by
  rw [isPlainName, List.all_eq_true]
  intro c hc
  rw [((isName_iff.1 h).2 c hc).1]
  rfl

theorem attributesFrom_name (hs : ∀ c ∈ s, divides c = false ∧ c ≠ '=') :
    attributesFrom (.name held) (s ++ r) = attributesFrom (.name (held ++ s)) r := by
  induction s generalizing held with
  | nil => simp
  | cons c s ih =>
    obtain ⟨hc, hs⟩ := List.forall_mem_cons.1 hs
    rw [List.cons_append, attributesFrom, if_neg hc.2, hc.1, if_neg Bool.false_ne_true, ih hs]
    simp

theorem attributesFrom_value (hs : '"' ∉ s) :
    attributesFrom (.value name held) (s ++ r) = attributesFrom (.value name (held ++ s)) r := by
  induction s generalizing held with
  | nil => simp
  | cons c s ih =>
    rw [List.mem_cons, not_or] at hs
    rw [List.cons_append, attributesFrom, if_neg (Ne.symm hs.1), ih hs.2]
    simp

theorem attributesFrom_blank (h : isName tag = true) :
    attributesFrom .between (' ' :: (tag.toList ++ r)) = attributesFrom (.name tag.toList) r := by
  obtain ⟨hn, hs⟩ := isName_iff.1 h
  obtain ⟨c, s, hcs⟩ := List.exists_cons_of_ne_nil hn
  rw [hcs] at hs ⊢
  obtain ⟨hc, hs⟩ := List.forall_mem_cons.1 hs
  have hb : divides ' ' = true := rfl
  rw [attributesFrom, if_pos hb, List.cons_append, attributesFrom, hc.2.1,
    if_neg Bool.false_ne_true, attributesFrom_name fun d hd => (hs d hd).2]
  rfl

theorem attributesFrom_name_of_divided (hr : Divided r) : attributesFrom (.name name) r =
    .flag (String.ofList name) true :: attributesFrom .between r := by
  cases r with
  | nil => rfl
  | cons c r =>
    have hc : divides c = true := hr c rfl
    have he : c ≠ '=' := by
      rintro rfl
      cases hc
    simp only [attributesFrom, if_neg he, if_pos hc]

theorem attributesFrom_attribute (ha : a.isNamed = true) (hr : Divided r) :
    attributesFrom .between (writeAttribute a ++ r) =
      [a].filter Attribute.isPresent ++ attributesFrom .between r := by
  cases a with
  | value name value =>
    have ha : isName name = true := ha
    have hw : writeAttribute (.value name value) ++ r =
        ' ' :: (name.toList ++ '=' :: '"' :: (value.toList.flatMap escapedValue ++ '"' :: r)) := by
      simp [writeAttribute]
    rw [hw, attributesFrom_blank ha, attributesFrom, if_pos rfl, attributesFrom, if_pos rfl,
      attributesFrom_value (not_mem_escapedValue _), attributesFrom, if_pos rfl, List.nil_append,
      unescape_flatMap_value, String.ofList_toList, String.ofList_toList]
    rfl
  | flag name present =>
    cases present with
    | false => rfl
    | true =>
      have ha : isName name = true := ha
      have hw : writeAttribute (.flag name true) ++ r = ' ' :: (name.toList ++ r) := rfl
      rw [hw, attributesFrom_blank ha, attributesFrom_name_of_divided hr, String.ofList_toList]
      rfl

theorem divided_attributes (attributes : List Attribute) (hr : Divided r) :
    Divided (attributes.flatMap writeAttribute ++ r) := by
  induction attributes with
  | nil => exact hr
  | cons a attributes ih =>
    rw [List.flatMap_cons, List.append_assoc]
    rcases a with ⟨name, value⟩ | ⟨name, _ | _⟩
    · exact fun c hc => Option.some.inj hc ▸ rfl
    · exact ih
    · exact fun c hc => Option.some.inj hc ▸ rfl

theorem attributesFrom_attributes (ha : ∀ a ∈ attributes, a.isNamed = true) (hr : Divided r) :
    attributesFrom .between (attributes.flatMap writeAttribute ++ r) =
      attributes.filter Attribute.isPresent ++ attributesFrom .between r := by
  induction attributes with
  | nil => rfl
  | cons a attributes ih =>
    obtain ⟨ha, hs⟩ := List.forall_mem_cons.1 ha
    rw [List.flatMap_cons, List.append_assoc,
      attributesFrom_attribute ha (divided_attributes _ hr), ih hs,
      ← List.append_assoc, ← List.filter_append, List.singleton_append]

/-- A start or an end of an element, or a text. -/
inductive Node
  | start (name : String) (attributes : List Attribute)
  | stop (name : String)
  | text (s : String)
  deriving DecidableEq, Repr

def Node.ofTag (inside : List Char) : Node :=
  match inside with
  | '/' :: name => .stop (String.ofList name)
  | _ => .start (String.ofList (inside.takeWhile fun c => !divides c))
      (attributesFrom .between (inside.dropWhile fun c => !divides c))

def Node.ofToken : Token → Node
  | .tag inside => ofTag inside
  | .text s => text (String.ofList s)

/-- The elements of a page, in the order of their tags, and its texts. -/
def nodes (page : String) : List Node := (tokens page).map Node.ofToken

theorem Node.ofTag_start (ht : isName tag = true) (ha : ∀ a ∈ attributes, a.isNamed = true)
    (hr : Divided r) (he : attributesFrom .between r = []) :
    ofTag (tag.toList ++ (attributes.flatMap writeAttribute ++ r)) =
      .start tag (attributes.filter Attribute.isPresent) := by
  have hd := divided_attributes attributes hr
  have hs := attributesFrom_attributes ha hr
  rw [he, List.append_nil] at hs
  generalize attributes.flatMap writeAttribute ++ r = rest at hd hs ⊢
  obtain ⟨hn, hc⟩ := isName_iff.1 ht
  have hp : ∀ c ∈ tag.toList, (!divides c) = true := fun c h => by rw [(hc c h).2.1]; rfl
  have hrest : rest.takeWhile (fun c => !divides c) = [] ∧
      rest.dropWhile (fun c => !divides c) = rest := by
    cases rest with
    | nil => exact ⟨rfl, rfl⟩
    | cons d rest =>
      have hd : divides d = true := hd d rfl
      simp [hd]
  have hslash : ∀ name, tag.toList ++ rest ≠ '/' :: name := by
    intro name h
    obtain ⟨c, s, hcs⟩ := List.exists_cons_of_ne_nil hn
    rw [hcs] at h
    cases h
    cases (hc '/' (hcs ▸ List.mem_cons_self)).2.1
  rw [ofTag.eq_2 _ hslash, List.takeWhile_append_of_pos hp, List.dropWhile_append_of_pos hp,
    hrest.1, hrest.2, List.append_nil, String.ofList_toList, hs]

end Markup

namespace Piece

open Markup (isName Node)

def isNamed : Piece → Bool
  | opening tag attributes | void tag attributes =>
    isName tag && attributes.all Attribute.isNamed
  | closing tag => isName tag
  | text _ => true

/-- What a tag is read as. -/
def node? : Piece → Option Node
  | opening tag attributes | void tag attributes =>
    some (.start tag (attributes.filter Attribute.isPresent))
  | closing tag => some (.stop tag)
  | text _ => none

variable {p : Piece} {inside : List Char}

theorem isPlain_of_isNamed (h : p.isNamed = true) : p.isPlain = true := by
  have hs : ∀ (tag : String) (attributes : List Attribute),
      (isName tag && attributes.all Attribute.isNamed) = true →
      (Markup.isPlainName tag && attributes.all Attribute.isPlain) = true := by
    intro tag attributes h
    simp only [Bool.and_eq_true, List.all_eq_true] at h ⊢
    refine ⟨Markup.isPlainName_of_isName h.1, fun a ha => ?_⟩
    cases a <;> exact Markup.isPlainName_of_isName (h.2 _ ha)
  cases p with
  | opening tag attributes => exact hs tag attributes h
  | closing tag => exact Markup.isPlainName_of_isName h
  | void tag attributes => exact hs tag attributes h
  | text s => rfl

theorem node?_of_inside? (hp : p.isNamed = true) (hi : p.inside? = some inside) :
    p.node? = some (Node.ofTag inside) := by
  cases p with
  | opening tag attributes =>
    cases hi
    rw [isNamed, Bool.and_eq_true, List.all_eq_true] at hp
    have h := Node.ofTag_start (r := []) hp.1 hp.2 (by simp [Markup.Divided]) rfl
    rw [List.append_nil] at h
    rw [node?, h]
  | closing tag =>
    cases hi
    rw [node?, Node.ofTag, String.ofList_toList]
  | void tag attributes =>
    cases hi
    rw [isNamed, Bool.and_eq_true, List.all_eq_true] at hp
    rw [node?, List.append_assoc, Node.ofTag_start hp.1 hp.2 (by simp [Markup.Divided]; rfl) rfl]
  | text s => cases hi

end Piece

namespace Markup

def textNodes (s : List Char) : List Node := if s = [] then [] else [.text (String.ofList s)]

theorem textNodes_toList {s : String} (h : s ≠ "") : textNodes s.toList = [.text s] := by
  rw [textNodes, if_neg (mt String.toList_eq_nil_iff.1 h), String.ofList_toList]

/-- The elements of markup; texts side by side are one text. -/
def nodesOf (held : List Char) : Markup → List Node
  | [] => textNodes held
  | p :: m =>
    match p with
    | .text s => nodesOf (held ++ s.toList) m
    | p => textNodes held ++ (p.node?.toList ++ nodesOf [] m)

theorem nodesOf_tag {p : Piece} {node : Node} (hn : p.node? = some node) (held : List Char)
    (m : Markup) : nodesOf held (p :: m) = textNodes held ++ node :: nodesOf [] m := by
  cases p <;> simp_all [Piece.node?, nodesOf]

theorem map_ofText (s : List Char) : (Token.ofText s).map Node.ofToken = textNodes s := by
  unfold Token.ofText textNodes
  split <;> rfl

theorem map_tokensOf {m : Markup} (hm : ∀ p ∈ m, p.isNamed = true) (held : List Char) :
    (tokensOf held m).map Node.ofToken = nodesOf held m := by
  induction m generalizing held with
  | nil => exact map_ofText held
  | cons p m ih =>
    have ih := ih fun q hq => hm q (List.mem_cons_of_mem _ hq)
    cases hi : p.inside? with
    | none =>
      obtain ⟨s, rfl⟩ := exists_text_of_inside? hi
      exact ih _
    | some inside =>
      rw [tokensOf_tag hi, List.map_append, List.map_cons, map_ofText, ih,
        nodesOf_tag (Piece.node?_of_inside? (hm p List.mem_cons_self) hi)]
      rfl

/-- A page of markup with proper names is read as its elements. -/
theorem nodes_write {m : Markup} (hm : m.all Piece.isNamed = true) :
    nodes (write m) = nodesOf [] m := by
  rw [List.all_eq_true] at hm
  have hp : m.all Piece.isPlain = true :=
    List.all_eq_true.2 fun p h => Piece.isPlain_of_isNamed (hm p h)
  rw [nodes, tokens_write hp, map_tokensOf hm]

end Markup

end SimilarityClient
