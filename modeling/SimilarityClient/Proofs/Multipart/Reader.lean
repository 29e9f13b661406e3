import Mathlib.Data.List.Basic
import SimilarityClient.Multipart
import SimilarityClient.Proofs.Multipart.Divide
import SimilarityClient.Proofs.Text.Utf8

/-! # Reading multipart bodies

A body is divided at its delimiters and every piece at its first blank line. No
file name can end the line that it stands in, so a boundary that is in none of
the contents gives all parts back.
-/

namespace SimilarityClient.Multipart

open Text (Bytes utf8 readUtf8 utf8_append)

/-- A text up to the mark that closes it, and what follows; a backslash gives the
character behind it. -/
def readQuoted? : List Char → Option (List Char × List Char)
  | [] => none
  | '"' :: r => some ([], r)
  | '\\' :: c :: r => (readQuoted? r).map fun (s, rest) => (c :: s, rest)
  | c :: r => (readQuoted? r).map fun (s, rest) => (c :: s, rest)

def fieldLabel : List Char := "Content-Disposition: form-data; name=\"".toList
def fileNameLabel : List Char := "; filename=\"".toList

/-- The field and the file name of a header line. -/
def readHeaderLine? (line : List Char) : Option (String × String) := do
  let r ← line.dropPrefix? fieldLabel
  let (field, r) ← readQuoted? r
  let r ← r.dropPrefix? fileNameLabel
  let (fileName, r) ← readQuoted? r
  if r = [] then some (String.ofList field, String.ofList fileName) else none

def blankLine : Bytes := lineEnd ++ lineEnd

def readPart? (piece : Bytes) : Option Part := do
  let piece ← piece.dropPrefix? lineEnd
  let (line, content) ← cut? blankLine piece
  let (field, fileName) ← readHeaderLine? (readUtf8 line)
  return ⟨field, fileName, content⟩

/-- All pieces are parts but the last one, which is the end of the delimiter that
closes the body. -/
def readPieces? : List Bytes → Option (List Part)
  | [] => none
  | p :: ps =>
    if ps = [] then if p = dashes ++ lineEnd then some [] else none
    else do
      let part ← readPart? p
      let parts ← readPieces? ps
      return part :: parts

def delimiter (boundary : Bytes) : Bytes := lineEnd ++ dashes ++ boundary

/-- The parts of a body, which need no line end before the first delimiter. -/
def read? (boundary body : Bytes) : Option (List Part) :=
  if body = [] then some []
  else match divide (delimiter boundary) (lineEnd ++ body) with
    | [] :: pieces => readPieces? pieces
    | _ => none

variable {s t : List Char} {p : Part}

def headerLine (p : Part) : List Char :=
  fieldLabel ++ p.field.toList ++ '"' :: fileNameLabel ++ p.fileName.toList.flatMap escaped ++ ['"']

theorem header_eq (p : Part) : header p = headerLine p ++ ['\r', '\n', '\r', '\n'] := by
  have hm : "\"; filename=\"".toList = '"' :: fileNameLabel := rfl
  have he : "\"\r\n\r\n".toList = '"' :: ['\r', '\n', '\r', '\n'] := rfl
  unfold header headerLine fieldLabel
  rw [hm, he]
  simp only [List.append_assoc, List.cons_append, List.nil_append]

/-- Nothing in a field needs an escape. -/
def Part.IsPlain (p : Part) : Prop := ∀ c ∈ p.field.toList, needsEscape c = false

theorem flatMap_escaped_of_plain (h : ∀ c ∈ s, needsEscape c = false) : s.flatMap escaped = s := by
  induction s with
  | nil => rfl
  | cons c s ih =>
    rw [List.flatMap_cons, ih fun d hd => h d (List.mem_cons_of_mem _ hd), escaped,
      h c List.mem_cons_self]
    rfl

theorem readQuoted?_cons {c : Char} (hb : c ≠ '\\') (hm : c ≠ '"') (r : List Char) :
    readQuoted? (c :: r) = (readQuoted? r).map fun (s, rest) => (c :: s, rest) := by
  rw [readQuoted?.eq_def]
  split <;> simp_all

theorem readQuoted?_escaped (s rest : List Char) :
    readQuoted? (s.flatMap escaped ++ '"' :: rest) = some (s, rest) := by
  induction s with
  | nil => rfl
  | cons c s ih =>
    rw [List.flatMap_cons, escaped]
    cases hc : needsEscape c with
    | true => simp [readQuoted?, ih]
    | false =>
      simp only [needsEscape, Bool.or_eq_false_iff, beq_eq_false_iff_ne] at hc
      obtain ⟨⟨⟨hb, hm⟩, -⟩, -⟩ := hc
      rw [if_neg (by simp), List.append_assoc, List.singleton_append, readQuoted?_cons hb hm, ih]
      rfl

theorem dropPrefix?_append (u v : List Char) : (u ++ v).dropPrefix? u = some v :=
  List.dropPrefix?_append_of_beq v (by simp)

theorem readHeaderLine?_headerLine (h : p.IsPlain) :
    readHeaderLine? (headerLine p) = some (p.field, p.fileName) := by
  have hf : ∀ r, readQuoted? (p.field.toList ++ '"' :: r) = some (p.field.toList, r) := by
    intro r
    conv => lhs; rw [← flatMap_escaped_of_plain h]
    exact readQuoted?_escaped _ r
  simp only [headerLine, List.append_assoc, List.cons_append, readHeaderLine?, dropPrefix?_append,
    Option.bind_eq_bind, Option.bind_some, hf, readQuoted?_escaped]
  simp

/-- No line ends in a text. -/
def OneLine (s : List Char) : Prop := ¬ ['\r', '\n'] <:+: s

theorem OneLine.cons {c : Char} (h : OneLine s) (hc : c = '\r' → s.head? ≠ some '\n') :
    OneLine (c :: s) := by
  intro hi
  rcases List.infix_cons_iff.1 hi with hp | hi
  · obtain ⟨he, t, rfl⟩ := List.cons_prefix_cons.1 hp
    exact hc he.symm rfl
  · exact h hi

theorem OneLine.append_of_not_mem (hs : '\r' ∉ s) (h : OneLine t) : OneLine (s ++ t) :=
  fun hi => h (Text.infix_of_infix_append hs hi)

theorem head?_escaped (ht : t.head? ≠ some '\n') (s : List Char) :
    (s.flatMap escaped ++ t).head? ≠ some '\n' := by
  cases s with
  | nil => exact ht
  | cons c s =>
    rw [List.flatMap_cons, escaped]
    split
    · simp
    · rename_i hc
      rintro he
      obtain rfl : c = '\n' := by simpa using he
      simp [needsEscape] at hc

/-- A line break in a name is split by a backslash. -/
theorem oneLine_escaped (h : OneLine t) (ht : t.head? ≠ some '\n') (s : List Char) :
    OneLine (s.flatMap escaped ++ t) := by
  induction s with
  | nil => exact h
  | cons c s ih =>
    have hc : OneLine (c :: (s.flatMap escaped ++ t)) := ih.cons fun _ => head?_escaped ht s
    rw [List.flatMap_cons, escaped, List.append_assoc]
    split
    · exact hc.cons (by simp)
    · exact hc

theorem oneLine_headerLine (h : p.IsPlain) : OneLine (headerLine p) := by
  have hf : '\r' ∉ p.field.toList := by
    intro hm
    simpa [needsEscape] using h _ hm
  have hn : OneLine (p.fileName.toList.flatMap escaped ++ ['"']) :=
    oneLine_escaped (by simp [OneLine, List.infix_cons_iff]) (by simp) _
  have hl : '\r' ∉ fieldLabel ++ p.field.toList ++ '"' :: fileNameLabel := by
    simp only [List.mem_append, List.mem_cons, hf, not_or]
    decide
  unfold headerLine
  simpa only [List.append_assoc, List.cons_append] using hn.append_of_not_mem hl

theorem OneLine.not_infix_utf8 (h : OneLine s) : ¬ lineEnd <:+: utf8 s := by
  refine fun hi => h (Text.infix_of_utf8 ?_ hi)
  intro c hc
  simp only [List.mem_cons, List.not_mem_nil, or_false] at hc
  rcases hc with rfl | rfl <;> decide

variable {boundary line content : Bytes}

theorem lineEnd_eq : lineEnd = [13, 10] := rfl

theorem not_infix_line {sep t : Bytes} (hs : lineEnd <+: sep) (hl : ¬ lineEnd <:+: line)
    (ht : ¬ sep <:+: 13 :: t) : ¬ sep <:+: line ++ 13 :: t := by
  induction line with
  | nil => exact ht
  | cons b line ih =>
    rw [List.infix_cons_iff, not_or] at hl
    intro hi
    rcases List.infix_cons_iff.1 hi with hp | hi
    · have he := hs.trans hp
      rw [lineEnd_eq] at he hl
      obtain ⟨hb, hr⟩ := List.cons_prefix_cons.1 he
      cases line with
      | nil => exact absurd (List.cons_prefix_cons.1 hr).1 (by decide)
      | cons d line =>
        obtain ⟨hd, -⟩ := List.cons_prefix_cons.1 hr
        exact hl.1 (hb ▸ hd ▸ List.prefix_append [13, 10] line)
    · exact ih hl.2 hi

theorem avoids_blankLine (hl : ¬ lineEnd <:+: line) : Avoids blankLine line :=
  not_infix_line (List.prefix_append _ _) hl (by decide)

def piece (p : Part) : Bytes := lineEnd ++ utf8 (headerLine p) ++ blankLine ++ p.content

theorem readPart?_piece (h : p.IsPlain) : readPart? (piece p) = some p := by
  have hd : (piece p).dropPrefix? lineEnd =
      some (utf8 (headerLine p) ++ (blankLine ++ p.content)) := by
    rw [piece, List.append_assoc, List.append_assoc]
    exact List.dropPrefix?_append_of_beq _ (by simp)
  have hc := cut?_append (by decide) (avoids_blankLine (oneLine_headerLine h).not_infix_utf8)
    p.content
  simp only [readPart?, hd, hc, Text.readUtf8_utf8, readHeaderLine?_headerLine h,
    Option.bind_eq_bind, Option.bind_some]
  rfl

theorem delimiter_eq (boundary : Bytes) : delimiter boundary = 13 :: 10 :: 45 :: 45 :: boundary :=
  rfl

/-- Behind a line end there is no delimiter yet if there are no dashes with the boundary. -/
theorem not_infix_lineEnd_append {t : Bytes} (hd : ¬ dashes ++ boundary <+: t)
    (ht : ¬ delimiter boundary <:+: t) : ¬ delimiter boundary <:+: 13 :: 10 :: t := by
  rw [delimiter_eq] at ht ⊢
  simp only [List.infix_cons_iff, List.cons_prefix_cons, not_or]
  exact ⟨fun h => hd h.2.2, fun h => absurd h.1 (by decide), ht⟩

theorem not_infix_delimiter (hb : ¬ boundary <:+: content) : ¬ delimiter boundary <:+: content :=
  fun h => hb ((List.suffix_append _ boundary).isInfix.trans h)

theorem dashes_not_prefix_headerLine (p : Part) (s t : Bytes) :
    ¬ dashes ++ s <+: utf8 (headerLine p) ++ t := by
  intro h
  exact absurd (List.cons_prefix_cons.1 h).1 (by decide)

/-- No delimiter begins in a part, whatever the file is called. -/
theorem delimiter_not_infix_piece (h : p.IsPlain) (hb : ¬ boundary <:+: p.content) :
    ¬ delimiter boundary <:+: piece p := by
  have hc : ¬ delimiter boundary <:+: 13 :: 10 :: p.content := by
    refine not_infix_lineEnd_append (fun hp => ?_) (not_infix_delimiter hb)
    exact hb ((List.suffix_append dashes boundary).isInfix.trans hp.isInfix)
  have hl : ¬ delimiter boundary <:+: 13 :: 10 :: 13 :: 10 :: p.content := by
    refine not_infix_lineEnd_append (fun hp => ?_) hc
    exact absurd (List.cons_prefix_cons.1 hp).1 (by decide)
  have hh := not_infix_line (List.prefix_append _ _)
    (oneLine_headerLine h).not_infix_utf8 hl
  have hp := not_infix_lineEnd_append (dashes_not_prefix_headerLine p _ _) hh
  simpa [piece, blankLine, lineEnd_eq] using hp

theorem delimiter_avoids (hr : 13 ∉ boundary) {a : Bytes} (h : ¬ delimiter boundary <:+: a) :
    Avoids (delimiter boundary) a := by
  rw [delimiter_eq] at h ⊢
  exact avoids_of_not_mem (by simp) (by simpa using hr) h

/-- A boundary for some contents: in none of them, and not broken by a line end. -/
structure Divides (boundary : Bytes) (contents : List Bytes) : Prop where
  ne_nil : boundary ≠ []
  return_not_mem : 13 ∉ boundary
  not_infix : ∀ content ∈ contents, ¬ boundary <:+: content

/-- A text that can be the boundary for some contents. -/
structure IsBoundary (boundary : String) (contents : List Bytes) : Prop where
  ne_empty : boundary ≠ ""
  return_not_mem : '\r' ∉ boundary.toList
  feed_not_mem : '\n' ∉ boundary.toList
  not_infix : ∀ content ∈ contents, ¬ utf8 boundary.toList <:+: content

theorem IsBoundary.divides {boundary : String} {contents : List Bytes}
    (h : IsBoundary boundary contents) : Divides (utf8 boundary.toList) contents where
  ne_nil := by
    intro he
    have hs := Text.readUtf8_utf8 boundary.toList
    rw [he] at hs
    exact h.ne_empty (String.toList_eq_nil_iff.1 hs.symm)
  return_not_mem := fun hm => h.return_not_mem (Text.mem_of_mem_utf8 (by decide) hm)
  not_infix := h.not_infix

def behindDelimiter (boundary : Bytes) : List Part → Bytes
  | [] => dashes ++ lineEnd
  | p :: ps => piece p ++ (delimiter boundary ++ behindDelimiter boundary ps)

theorem part_eq (boundary : Bytes) (p : Part) :
    part boundary p = dashes ++ boundary ++ piece p ++ lineEnd := by
  have hh : utf8 (header p) = utf8 (headerLine p) ++ blankLine := by
    rw [header_eq, utf8_append]
    rfl
  simp only [part, piece, hh, List.append_assoc]

theorem lineEnd_append_body {parts : List Part} (hp : parts ≠ []) (boundary : Bytes) :
    lineEnd ++ body boundary parts = delimiter boundary ++ behindDelimiter boundary parts := by
  rw [body, if_neg hp]
  clear hp
  induction parts with
  | nil => simp only [delimiter, behindDelimiter, List.flatMap_nil, List.nil_append,
      List.append_assoc]
  | cons p ps ih =>
    rw [behindDelimiter, ← ih, List.flatMap_cons, part_eq]
    simp only [delimiter, List.append_assoc]

theorem divide_behindDelimiter {parts : List Part} (hl : ∀ p ∈ parts, p.IsPlain)
    (hd : Divides boundary (parts.map Part.content)) :
    divide (delimiter boundary) (behindDelimiter boundary parts) =
      parts.map piece ++ [dashes ++ lineEnd] := by
  induction parts with
  | nil =>
    refine divide_eq_singleton fun h => ?_
    have hs : (dashes ++ lineEnd).length = 4 := rfl
    have hb := List.length_pos_iff.2 hd.ne_nil
    have hlen := h.length_le
    rw [behindDelimiter, hs, delimiter_eq] at hlen
    simp only [List.length_cons] at hlen
    omega
  | cons p ps ih =>
    have hn := delimiter_not_infix_piece (hl p List.mem_cons_self)
      (hd.not_infix _ List.mem_cons_self)
    have hd' : Divides boundary (ps.map Part.content) :=
      ⟨hd.ne_nil, hd.return_not_mem, fun c hc => hd.not_infix c (List.mem_cons_of_mem _ hc)⟩
    rw [behindDelimiter, divide_append (by simp [delimiter_eq]) (delimiter_avoids hd.return_not_mem hn),
      ih (fun q hq => hl q (List.mem_cons_of_mem _ hq)) hd']
    rfl

theorem readPieces?_pieces {parts : List Part} (hl : ∀ p ∈ parts, p.IsPlain) :
    readPieces? (parts.map piece ++ [dashes ++ lineEnd]) = some parts := by
  induction parts with
  | nil => rfl
  | cons p ps ih =>
    rw [List.map_cons, List.cons_append, readPieces?, if_neg (by simp),
      readPart?_piece (hl p List.mem_cons_self), ih fun q hq => hl q (List.mem_cons_of_mem _ hq)]
    rfl

theorem read?_body {parts : List Part} (hl : ∀ p ∈ parts, p.IsPlain)
    (hd : Divides boundary (parts.map Part.content)) :
    read? boundary (body boundary parts) = some parts := by
  by_cases hp : parts = []
  · subst hp
    rfl
  have hb : body boundary parts ≠ [] := by
    intro he
    have hlen := congrArg List.length (lineEnd_append_body hp boundary)
    simp [he, lineEnd_eq, delimiter_eq] at hlen
  have ha : Avoids (delimiter boundary) [] :=
    delimiter_avoids hd.return_not_mem (by simp [delimiter_eq])
  have hdiv : divide (delimiter boundary) (lineEnd ++ body boundary parts) =
      [] :: (parts.map piece ++ [dashes ++ lineEnd]) := by
    rw [lineEnd_append_body hp, ← divide_behindDelimiter hl hd]
    exact divide_append (by simp [delimiter_eq]) ha _
  rw [read?, if_neg hb, hdiv]
  exact readPieces?_pieces hl

end SimilarityClient.Multipart
