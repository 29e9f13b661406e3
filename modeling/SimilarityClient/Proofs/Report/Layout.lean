import SimilarityClient.Proofs.Json.Layout
import SimilarityClient.Proofs.Report.Decoded

/-! # Layouts of a report

A report may come as any of many documents. All of them are read alike, and a
document that leaves out a member, repeats one or goes on behind its end is
never read.
-/

namespace SimilarityClient

open Json

variable {v : List Char}

namespace Entry

theorem mem_members {m : Member PartialEntry} (h : m ∈ Entry.shape.members) :
    m = Entry.shape.members[0] ∨ m = Entry.shape.members[1] ∨ m = Entry.shape.members[2] := by
  have h' : m ∈ [Entry.shape.members[0], Entry.shape.members[1], Entry.shape.members[2]] := h
  simpa only [List.mem_cons, List.not_mem_nil, or_false] using h'

theorem file1_sets : Entry.shape.members[0].Sets readString fun e x =>
    ⟨some x, e.file2, e.similarity⟩ := by
  intro e s
  change (readString s >>= _) = _
  cases readString s <;> rfl

theorem file2_sets : Entry.shape.members[1].Sets readString fun e x =>
    ⟨e.file1, some x, e.similarity⟩ := by
  intro e s
  change (readString s >>= _) = _
  cases readString s <;> rfl

theorem similarity_sets : Entry.shape.members[2].Sets readBinary64 fun e x =>
    ⟨e.file1, e.file2, some x⟩ := by
  intro e s
  change (readBinary64 s >>= _) = _
  cases readBinary64 s <;> rfl

theorem isSteady_shape : Entry.shape.IsSteady := by
  constructor
  · intro m hm record
    rcases mem_members hm with rfl | rfl | rfl
    · exact file1_sets.ignoresBlanks ignoresBlanks_readString record
    · exact file2_sets.ignoresBlanks ignoresBlanks_readString record
    · exact similarity_sets.ignoresBlanks ignoresBlanks_readBinary64 record
  · intro m hm record v hv
    rcases mem_members hm with rfl | rfl | rfl
    · exact file1_sets.isSettled (isSettled_readString hv) record
    · exact file2_sets.isSettled (isSettled_readString hv) record
    · exact similarity_sets.isSettled (isSettled_readBinary64 hv) record

theorem isRecord_shape : Entry.shape.IsRecord := by
  constructor
  · decide
  · intro m hm
    rcases mem_members hm with rfl | rfl | rfl <;> rfl
  · intro m hm record v record' h m' hm'
    rcases mem_members hm with rfl | rfl | rfl
    · obtain ⟨x, rfl⟩ := file1_sets.exists_set h
      rcases mem_members hm' with rfl | rfl | rfl <;> rfl
    · obtain ⟨x, rfl⟩ := file2_sets.exists_set h
      rcases mem_members hm' with rfl | rfl | rfl <;> rfl
    · obtain ⟨x, rfl⟩ := similarity_sets.exists_set h
      rcases mem_members hm' with rfl | rfl | rfl <;> rfl
  · intro m hm m' hm' hn record v v'
    rcases mem_members hm with rfl | rfl | rfl <;> rcases mem_members hm' with rfl | rfl | rfl
    · exact absurd rfl hn
    · exact file1_sets.commutes file2_sets (fun _ _ _ => rfl) record v v'
    · exact file1_sets.commutes similarity_sets (fun _ _ _ => rfl) record v v'
    · exact file2_sets.commutes file1_sets (fun _ _ _ => rfl) record v v'
    · exact absurd rfl hn
    · exact file2_sets.commutes similarity_sets (fun _ _ _ => rfl) record v v'
    · exact similarity_sets.commutes file1_sets (fun _ _ _ => rfl) record v v'
    · exact similarity_sets.commutes file2_sets (fun _ _ _ => rfl) record v v'
    · exact absurd rfl hn

end Entry

namespace Report

theorem entries_sets : Report.shape.members[0].Sets (readList Entry.read) fun _ es => some es := by
  intro e s
  change (readList Entry.read s >>= _) = _
  cases readList Entry.read s <;> rfl

theorem eq_of_mem_members {m : Member (Option (List Entry))} (h : m ∈ Report.shape.members) :
    m = Report.shape.members[0] :=
  List.eq_of_mem_singleton h

theorem isSteady_shape : Report.shape.IsSteady := by
  constructor
  · intro m hm record
    rw [eq_of_mem_members hm]
    exact entries_sets.ignoresBlanks ignoresBlanks_readList record
  · intro m hm record v hv
    rw [eq_of_mem_members hm]
    refine entries_sets.isSettled (isSettled_readList (fun w hw => ?_) hv) record
    exact Shape.isSettled_read Entry.isSteady_shape hw

theorem isRecord_shape : Report.shape.IsRecord := by
  constructor
  · decide
  · intro m hm
    rw [eq_of_mem_members hm]
    rfl
  · intro m hm record v record' h m' hm'
    rw [eq_of_mem_members hm] at h ⊢
    obtain ⟨x, rfl⟩ := entries_sets.exists_set h
    rw [eq_of_mem_members hm']
    rfl
  · intro m hm m' hm' hn
    rw [eq_of_mem_members hm, eq_of_mem_members hm'] at hn
    exact absurd rfl hn

end Report

/-- A text spelled in any way. -/
def TextOf (s : String) (v : List Char) : Prop := ∃ k, Spells k s.toList ∧ v = '"' :: (k ++ ['"'])

/-- A spelling of a number that is read. -/
def NumberOf (x : Binary64) (v : List Char) : Prop := IsNumber v ∧ readBinary64 v = .ok (x, [])

/-- A text of an entry. -/
def Entry.LaidOut (e : Entry) (v : List Char) : Prop :=
  ∃ v1 v2 v3, TextOf e.file1 v1 ∧ TextOf e.file2 v2 ∧ NumberOf e.similarity v3 ∧
    RecordOf [("file1".toList, v1), ("file2".toList, v2), ("similarity".toList, v3)] v

/-- A text of a report. -/
def Report.LaidOut (r : Report) (v : List Char) : Prop :=
  ∃ ws w, List.Forall₂ Entry.LaidOut r.entries ws ∧ ListOf ws w ∧
    RecordOf [("report".toList, w)] v

/-- A text with a member missing or repeated, in the report or in one of its entries. -/
inductive Report.LaidOutBadly : List Char → Prop
  | outer {v : List Char} (h : IsFlawed ["report".toList] v) : LaidOutBadly v
  | entry {ws : List (List Char)} {w w' v : List Char}
    (hf : IsFlawed ["file1".toList, "file2".toList, "similarity".toList] w') (hm : w' ∈ ws)
    (hw : ListOf ws w) (hv : RecordOf [("report".toList, w)] v) : LaidOutBadly v

theorem TextOf.value? {s : String} (h : TextOf s v) : Json.value? readString v = some s := by
  obtain ⟨k, hk, rfl⟩ := h
  rw [(settles_readString_spells hk).value?_eq, String.ofList_toList]

theorem NumberOf.value? {x : Binary64} (h : NumberOf x v) :
    Json.value? readBinary64 v = some x := by
  rw [Json.value?, h.2]
  rfl

theorem Entry.fill_eq {e : Entry} {v1 v2 v3 : List Char} (h1 : TextOf e.file1 v1)
    (h2 : TextOf e.file2 v2) (h3 : NumberOf e.similarity v3) :
    Entry.shape.fill Entry.shape.empty
      [("file1".toList, v1), ("file2".toList, v2), ("similarity".toList, v3)] =
      some ⟨some e.file1, some e.file2, some e.similarity⟩ := by
  have hf1 : Entry.shape.take? ⟨none, none, none⟩ ("file1".toList, v1) =
      some ⟨some e.file1, none, none⟩ :=
    (file1_sets.value?_eq _ v1).trans (congrArg _ h1.value?)
  have hf2 : Entry.shape.take? ⟨some e.file1, none, none⟩ ("file2".toList, v2) =
      some ⟨some e.file1, some e.file2, none⟩ :=
    (file2_sets.value?_eq _ v2).trans (congrArg _ h2.value?)
  have hf3 : Entry.shape.take? ⟨some e.file1, some e.file2, none⟩ ("similarity".toList, v3) =
      some ⟨some e.file1, some e.file2, some e.similarity⟩ :=
    (similarity_sets.value?_eq _ v3).trans (congrArg _ h3.value?)
  change (Entry.shape.take? ⟨none, none, none⟩ _).bind _ = _
  rw [hf1, Option.bind_some, Shape.fill, hf2, Option.bind_some, Shape.fill, hf3]
  rfl

theorem Entry.LaidOut.toOption_read {e : Entry} (h : e.LaidOut v) (rest : List Char) :
    (Entry.read (v ++ rest)).toOption = some (e, rest) := by
  obtain ⟨v1, v2, v3, h1, h2, h3, hv⟩ := h
  rw [Entry.read, hv.toOption_read isSteady_shape isRecord_shape rfl, fill_eq h1 h2 h3]
  rfl

theorem Report.fill_list {ws : List (List Char)} {w : List Char} (hw : ListOf ws w) :
    Report.shape.fill Report.shape.empty [("report".toList, w)] =
      (ws.mapM (Json.value? Entry.read)).map some := by
  have hs : Settles (readList Entry.read) w (ws.mapM (Json.value? Entry.read)) :=
    hw.settles fun v hv => Shape.isSettled_read Entry.isSteady_shape (hw.1 v hv)
  have hf : Report.shape.take? none ("report".toList, w) =
      (ws.mapM (Json.value? Entry.read)).map some :=
    (entries_sets.value?_eq _ w).trans (congrArg _ hs.value?_eq)
  change (Report.shape.take? none _).bind _ = _
  rw [hf]
  cases ws.mapM (Json.value? Entry.read) <;> rfl

theorem mapM_of_laidOut {es : List Entry} {ws : List (List Char)}
    (h : List.Forall₂ Entry.LaidOut es ws) : ws.mapM (Json.value? Entry.read) = some es := by
  induction h with
  | nil => rfl
  | cons he _ ih =>
    have hr := he.toOption_read []
    rw [List.append_nil] at hr
    rw [List.mapM_cons, Json.value?, hr, ih]
    rfl

theorem mapM_of_isFlawed {ws : List (List Char)} {w : List Char}
    (hf : IsFlawed ["file1".toList, "file2".toList, "similarity".toList] w) (hm : w ∈ ws) :
    ws.mapM (Json.value? Entry.read) = none := by
  have hr := hf.toOption_read Entry.isSteady_shape Entry.isRecord_shape []
  rw [List.append_nil] at hr
  induction ws with
  | nil => cases hm
  | cons w' ws ih =>
    rw [List.mapM_cons]
    rcases List.mem_cons.1 hm with rfl | hm
    · rw [Json.value?, Entry.read, hr]
      rfl
    · rw [ih hm]
      cases Json.value? Entry.read w' <;> rfl

/-- A report is read from any of its texts. -/
theorem Report.LaidOut.toOption_read {r : Report} (h : r.LaidOut v) (rest : List Char) :
    (Report.read (v ++ rest)).toOption = some (r, rest) := by
  obtain ⟨ws, w, hes, hw, hv⟩ := h
  rw [Report.read, hv.toOption_read isSteady_shape isRecord_shape rfl, fill_list hw,
    mapM_of_laidOut hes]
  rfl

theorem Report.LaidOutBadly.toOption_read (h : LaidOutBadly v) (rest : List Char) :
    (Report.read (v ++ rest)).toOption = none := by
  cases h with
  | outer h => exact h.toOption_read isSteady_shape isRecord_shape rest
  | entry hf hm hw hv =>
    rw [Report.read, hv.toOption_read isSteady_shape isRecord_shape rfl, fill_list hw,
      mapM_of_isFlawed hf hm]
    rfl

/-- A document that holds a value, with blanks around it. -/
def DocumentOf (v : List Char) (text : String) : Prop :=
  ∃ b b', IsBlank b ∧ IsBlank b' ∧ text = String.ofList (b ++ (v ++ b'))

/-- A document that goes on behind its value with something that is not blank. -/
def ContinuedOf (v : List Char) (text : String) : Prop :=
  ∃ b b' c t, IsBlank b ∧ IsBlank b' ∧ isSpace c = false ∧
    text = String.ofList (b ++ (v ++ (b' ++ c :: t)))

theorem toOption_readDocument {α : Type} (read : Reader α) (text : List Char) :
    (readDocument read text).toOption =
      (read text).toOption.bind fun y => if skipSpace y.2 = [] then some y.1 else none := by
  rw [readDocument]
  cases read text with
  | error e => rfl
  | ok y =>
    obtain ⟨x, rest⟩ := y
    simp only [Except.ok_bind, Except.toOption_ok, Option.bind_some]
    cases skipSpace rest <;> rfl

namespace Report

variable {text : String} {r : Report}

theorem toOption_decode (text : String) : (decode text).toOption =
    (read text.toList).toOption.bind fun y => if skipSpace y.2 = [] then some y.1 else none :=
  toOption_readDocument read text.toList

theorem read_append {b : List Char} (hb : IsBlank b) (s : List Char) : read (b ++ s) = read s :=
  Shape.ignoresBlanks_read b s hb

theorem decode_of_documentOf (h : DocumentOf v text)
    (hv : ∀ rest, (read (v ++ rest)).toOption = some (r, rest)) : decode text = .ok r := by
  obtain ⟨b, b', hb, hb', rfl⟩ := h
  have hd := toOption_decode (String.ofList (b ++ (v ++ b')))
  rw [String.toList_ofList, read_append hb, hv, Option.bind_some, skipSpace_blank hb',
    if_pos rfl] at hd
  exact Except.toOption_eq_some_iff.1 hd

theorem decode_of_refused (h : DocumentOf v text)
    (hv : ∀ rest, (read (v ++ rest)).toOption = none) : ∃ fault, decode text = .error fault := by
  obtain ⟨b, b', hb, hb', rfl⟩ := h
  refine Except.toOption_eq_none_iff.1 ?_
  rw [toOption_decode, String.toList_ofList, read_append hb, hv]
  rfl

theorem decode_of_continuedOf (h : ContinuedOf v text) (hv : IsValue v) :
    ∃ fault, decode text = .error fault := by
  obtain ⟨b, b', c, t, hb, hb', hc, rfl⟩ := h
  obtain ⟨x?, hx⟩ := Shape.exists_toOption_read isSteady_shape hv
  refine Except.toOption_eq_none_iff.1 ?_
  rw [toOption_decode, String.toList_ofList, read_append hb, read, hx]
  cases x? with
  | none => rfl
  | some r =>
    rw [Option.map_some, Option.bind_some, skipSpace_append hb', skipSpace_cons hc]
    exact if_neg (List.cons_ne_nil c t)

theorem report_of_decode {a : Answer} (hs : a.isSuccess = true) (lib : Libraries) :
    a.report lib = match decode (a.text lib) with
      | .ok report => .ok report
      | .error fault => .error (.invalidResponse fault) := by
  rw [Answer.report, hs]
  rfl

/-- All layouts of a report are read as the report. With a member missing or repeated, or with
anything but blanks behind its end, a document is refused. -/
theorem decode_layouts (a : Answer) (lib : Libraries) (hs : a.isSuccess = true) :
    (∀ r v, LaidOut r v → DocumentOf v (a.text lib) →
      decode (a.text lib) = .ok r ∧ a.report lib = .ok r) ∧
    (∀ v, LaidOutBadly v → DocumentOf v (a.text lib) → ∃ fault,
      decode (a.text lib) = .error fault ∧ a.report lib = .error (.invalidResponse fault)) ∧
    ∀ v, IsValue v → ContinuedOf v (a.text lib) → ∃ fault,
      decode (a.text lib) = .error fault ∧ a.report lib = .error (.invalidResponse fault) := by
  have ha := report_of_decode hs lib
  refine ⟨fun r v hv hd => ?_, fun v hv hd => ?_, fun v hv hd => ?_⟩
  · have h := decode_of_documentOf hd hv.toOption_read
    rw [h] at ha
    exact ⟨h, ha⟩
  · obtain ⟨fault, h⟩ := decode_of_refused hd hv.toOption_read
    rw [h] at ha
    exact ⟨fault, h, ha⟩
  · obtain ⟨fault, h⟩ := decode_of_continuedOf hd hv
    rw [h] at ha
    exact ⟨fault, h, ha⟩

end Report

theorem textOf_written (s : String) : TextOf s (writeText s.toList) :=
  ⟨s.toList.flatMap escaped, spells_escaped s.toList, rfl⟩

theorem isValue_written (s : String) : IsValue (writeText s.toList) :=
  .text (spells_escaped s.toList).isText

theorem listOf_nil : ListOf [] "[]".toList := ⟨nofun, [], .nil isBlank_nil, rfl⟩

theorem isMagnitude_half : IsMagnitude "12.5".toList :=
  ⟨['1', '2'], ['.', '5'], [], ⟨Text.isDigits_decimal 12, List.cons_ne_nil _ _, by decide⟩,
    .inr ⟨['5'], Text.isDigits_decimal 5, List.cons_ne_nil _ _, rfl⟩, .inl rfl, rfl⟩

theorem numberOf_half : NumberOf (Binary64.ofBits 0x4029000000000000) "12.5".toList :=
  ⟨.inl isMagnitude_half, Except.toOption_eq_some_iff.1 (by decide +kernel)⟩

theorem isBlank_space : IsBlank [' '] := List.forall_mem_singleton.2 rfl

theorem isValue_loneCode : IsValue "[ \"\\uD800\" ]".toList := by
  have hc : Code 0xD800 ['D', '8', '0', '0'] :=
    .digits (i := 13) (j := 8) (k := 0) (l := 0) rfl rfl rfl rfl
  exact .list (.cons isBlank_space (.nil isBlank_space))
    (List.forall_mem_singleton.2 (.text (.code hc .nil)))

/-- An entry with its members out of order, one of them spelled with a code, and another one. -/
def strewnEntry : List Char :=
  "\x7b\"similarity\":12.5,\"x\": [ \"\\uD800\" ],\"file2\":\"b\" ,\"\\u0066ile1\":\"a\"\x7d".toList

def listedEntry : List Char := "[\"a\", \"c\",12.5]".toList

def strewnEntries : List Char :=
  "[ ".toList ++ (strewnEntry ++ (" ,".toList ++ (listedEntry ++ [']'])))

/-- A report of both entries, with another member. -/
def strewnReport : List Char :=
  "\x7b\"note\":null, \"report\" : ".toList ++ (strewnEntries ++ ['\x7d'])

theorem objectOf_strewnEntry : ObjectOf [("similarity".toList, "12.5".toList),
    ("x".toList, "[ \"\\uD800\" ]".toList), ("file2".toList, writeText "b".toList),
    ("file1".toList, writeText "a".toList)] strewnEntry := by
  have hc : Code 0x66 ['0', '0', '6', '6'] :=
    .digits (i := 0) (j := 0) (k := 6) (l := 6) rfl rfl rfl rfl
  have hk : Spells "\\u0066ile1".toList "file1".toList :=
    .code hc rfl rfl (spells_escaped "ile1".toList)
  refine ⟨?_, _, _, .cons (.mk (spells_escaped "similarity".toList) isBlank_nil isBlank_nil)
    (.cons (.mk (spells_escaped "x".toList) isBlank_nil isBlank_space)
    (.cons (.mk (spells_escaped "file2".toList) isBlank_nil isBlank_nil)
    (.cons (.mk hk isBlank_nil isBlank_nil) .nil))),
    .cons isBlank_nil (.cons isBlank_nil isBlank_nil (.cons isBlank_nil isBlank_nil
    (.cons isBlank_space isBlank_nil (.nil isBlank_nil)))), rfl⟩
  simp only [List.forall_mem_cons, List.not_mem_nil, false_imp_iff, implies_true, and_true]
  exact ⟨.number (.inl isMagnitude_half), isValue_loneCode, isValue_written "b",
    isValue_written "a"⟩

theorem laidOut_strewnEntry :
    (⟨"a", "b", Binary64.ofBits 0x4029000000000000⟩ : Entry).LaidOut strewnEntry := by
  refine ⟨_, _, _, textOf_written "a", textOf_written "b", numberOf_half,
    .object objectOf_strewnEntry (List.Perm.trans (.of_eq ?_) (List.reverse_perm _))⟩
  decide +kernel

theorem listOf_listedEntry :
    ListOf [writeText "a".toList, writeText "c".toList, "12.5".toList] listedEntry := by
  refine ⟨?_, _, .cons isBlank_nil (.cons isBlank_nil isBlank_space
    (.cons isBlank_nil isBlank_nil (.nil isBlank_nil))), rfl⟩
  simp only [List.forall_mem_cons, List.not_mem_nil, false_imp_iff, implies_true, and_true]
  exact ⟨isValue_written "a", isValue_written "c", .number (.inl isMagnitude_half)⟩

theorem laidOut_listedEntry :
    (⟨"a", "c", Binary64.ofBits 0x4029000000000000⟩ : Entry).LaidOut listedEntry :=
  ⟨_, _, _, textOf_written "a", textOf_written "c", numberOf_half, .list listOf_listedEntry⟩

theorem listOf_strewnEntries : ListOf [strewnEntry, listedEntry] strewnEntries := by
  refine ⟨?_, _, .cons isBlank_space (.cons isBlank_space isBlank_nil (.nil isBlank_nil)), rfl⟩
  simp only [List.forall_mem_cons, List.not_mem_nil, false_imp_iff, implies_true, and_true]
  exact ⟨objectOf_strewnEntry.isValue, listOf_listedEntry.isValue⟩

theorem laidOut_strewnReport :
    (⟨[⟨"a", "b", Binary64.ofBits 0x4029000000000000⟩,
      ⟨"a", "c", Binary64.ofBits 0x4029000000000000⟩]⟩ : Report).LaidOut strewnReport := by
  have ho : ObjectOf [("note".toList, "null".toList), ("report".toList, strewnEntries)]
      strewnReport := by
    refine ⟨?_, _, _, .cons (.mk (spells_escaped "note".toList) isBlank_nil isBlank_nil)
      (.cons (.mk (spells_escaped "report".toList) isBlank_space isBlank_space) .nil),
      .cons isBlank_nil (.cons isBlank_nil isBlank_space (.nil isBlank_nil)), rfl⟩
    simp only [List.forall_mem_cons, List.not_mem_nil, false_imp_iff, implies_true, and_true]
    exact ⟨.literal List.mem_cons_self, listOf_strewnEntries.isValue⟩
  exact ⟨_, _, .cons laidOut_strewnEntry (.cons laidOut_listedEntry .nil), listOf_strewnEntries,
    .object ho (.of_eq (by decide +kernel))⟩

/-- An answer with members strewn about, one with its member repeated, and one that goes on. -/
theorem Report.decode_layouts_strewn :
    (Answer.ofJson (String.ofList (strewnReport ++ ['\n']))).report .bare =
        .ok ⟨[⟨"a", "b", Binary64.ofBits 0x4029000000000000⟩,
          ⟨"a", "c", Binary64.ofBits 0x4029000000000000⟩]⟩ ∧
    (∃ fault, (Answer.ofJson "\x7b\"report\":[],\"report\":[]\x7d").report .bare =
      .error (.invalidResponse fault)) ∧
    ∃ fault, (Answer.ofJson "[[]] 1").report .bare = .error (.invalidResponse fault) := by
  refine ⟨?_, ?_, ?_⟩
  · have ht := (Answer.carries_ofJson (String.ofList (strewnReport ++ ['\n']))).text_eq
      String.toList_ofList (by decide) .bare
    exact ((Report.decode_layouts (Answer.ofJson _) .bare rfl).1 _ _ laidOut_strewnReport
      ⟨[], ['\n'], isBlank_nil, List.forall_mem_singleton.2 rfl, ht⟩).2
  · have ho : ObjectOf [("report".toList, "[]".toList), ("report".toList, "[]".toList)]
        "\x7b\"report\":[],\"report\":[]\x7d".toList := by
      refine ⟨?_, _, _, .cons (.mk (spells_escaped "report".toList) isBlank_nil isBlank_nil)
        (.cons (.mk (spells_escaped "report".toList) isBlank_nil isBlank_nil) .nil),
        .cons isBlank_nil (.cons isBlank_nil isBlank_nil (.nil isBlank_nil)), rfl⟩
      simp only [List.forall_mem_cons, List.not_mem_nil, false_imp_iff, implies_true, and_true]
      exact ⟨listOf_nil.isValue, listOf_nil.isValue⟩
    have ht := (Answer.carries_ofJson "\x7b\"report\":[],\"report\":[]\x7d").text_eq
      rfl (by decide) .bare
    obtain ⟨fault, -, h⟩ := (Report.decode_layouts (Answer.ofJson _) .bare rfl).2.1 _
      (.outer (.object ho List.mem_cons_self (by decide +kernel)))
      ⟨[], [], isBlank_nil, isBlank_nil, ht⟩
    exact ⟨fault, h⟩
  · have hl : ListOf ["[]".toList] "[[]]".toList :=
      ⟨List.forall_mem_singleton.2 listOf_nil.isValue, _, .cons isBlank_nil (.nil isBlank_nil), rfl⟩
    have ht := (Answer.carries_ofJson "[[]] 1").text_eq rfl (by decide) .bare
    obtain ⟨fault, -, h⟩ := (Report.decode_layouts (Answer.ofJson _) .bare rfl).2.2 _ hl.isValue
      ⟨[], [' '], '1', [], isBlank_nil, isBlank_space, rfl, ht⟩
    exact ⟨fault, h⟩

end SimilarityClient
