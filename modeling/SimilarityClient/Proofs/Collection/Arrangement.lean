import Mathlib.Data.List.Nodup
import SimilarityClient.Form.Slot
import SimilarityClient.Proofs.Collection.Candidates
import SimilarityClient.Proofs.SourceFile.First

/-! # Independence of arrangement

A directory lists its entries in whatever order it likes, and paths may be given
in any order and more than once. The first has no influence on what is
collected, the second none but on the way a path is written down.
-/

namespace SimilarityClient

namespace FileTree

variable {tree tree' : FileTree}

/-- The same items at the same locations, held in whatever order. -/
structure Rearranges (tree' tree : FileTree) : Prop where
  item?_eq : ∀ loc, tree'.item? loc = tree.item? loc
  current_eq : tree'.current = tree.current

theorem item?_eq_some_iff (hd : (tree.items.map Prod.fst).Nodup) {loc : Location} (hl : loc ≠ [])
    {item : Item} : tree.item? loc = some item ↔ (loc, item) ∈ tree.items := by
  rw [item?, if_neg hl, Option.map_eq_some_iff]
  constructor
  · rintro ⟨e, he, rfl⟩
    have hk : e.1 = loc := by simpa using List.find?_some he
    exact hk ▸ List.mem_of_find?_eq_some he
  · intro hm
    cases he : tree.items.find? (·.1 == loc) with
    | none =>
      have := List.find?_eq_none.1 he _ hm
      simp at this
    | some e =>
      have hk : e.1 = loc := by simpa using List.find?_some he
      have hi := List.inj_on_of_nodup_map hd (List.mem_of_find?_eq_some he) hm hk
      exact ⟨e, rfl, by rw [hi]⟩

theorem rearranges_of_perm (hp : tree'.items.Perm tree.items)
    (hd : (tree.items.map Prod.fst).Nodup) (hc : tree'.current = tree.current) :
    tree'.Rearranges tree := by
  refine ⟨fun loc => ?_, hc⟩
  by_cases hl : loc = []
  · rw [hl, item?_nil, item?_nil]
  · have hd' : (tree'.items.map Prod.fst).Nodup := ((hp.map Prod.fst).nodup_iff).2 hd
    ext item
    rw [item?_eq_some_iff hd' hl, item?_eq_some_iff hd hl, hp.mem_iff]

theorem Rearranges.isDirectoryAt_eq (h : tree'.Rearranges tree) (loc : Location) :
    tree'.isDirectoryAt loc = tree.isDirectoryAt loc := by
  rw [isDirectoryAt, isDirectoryAt, h.item?_eq]

theorem Rearranges.descend_eq (h : tree'.Rearranges tree) (loc : Location) (path : List Step) :
    tree'.descend loc path = tree.descend loc path := by
  induction path generalizing loc with
  | nil => rfl
  | cons s path ih =>
    cases s <;> simp only [descend, h.isDirectoryAt_eq, h.item?_eq, ih]

theorem Rearranges.follow_eq (h : tree'.Rearranges tree) (n : Nat) (loc : Location)
    (path : List Step) : tree'.follow n loc path = tree.follow n loc path := by
  induction n generalizing loc path with
  | zero => rfl
  | succ n ih =>
    simp only [follow, h.descend_eq, ih]

theorem Rearranges.locate_eq (h : tree'.Rearranges tree) (p : Path) :
    tree'.locate p = tree.locate p := by
  rw [locate, locate, h.current_eq, h.follow_eq]

theorem Rearranges.stat_eq (h : tree'.Rearranges tree) (p : Path) : tree'.stat p = tree.stat p := by
  simp only [stat, h.locate_eq, h.item?_eq]

theorem Rearranges.mem_children_iff (h : tree'.Rearranges tree) (dir : Location) (name : String) :
    name ∈ tree'.children dir ↔ name ∈ tree.children dir := by
  rw [FileTree.mem_children_iff, FileTree.mem_children_iff, h.item?_eq]

end FileTree

namespace Collection

variable {tree tree' : FileTree} {paths paths' : List Path} {extensions : List String} {q : Path}
  {files files' : List SourceFile} {loc : Location}

/-- Every path has an order of its own, also one that is given twice. -/
def ofPathsArranged (tree : FileTree) (extensions : List String)
    (arrange : Nat → List String → List String) :
    List Path → Except CollectError (List SourceFile)
  | [] => .ok []
  | p :: ps => do
    let files ← ofPathArranged tree extensions (arrange 0) p
    let more ← ofPathsArranged tree extensions (fun i => arrange (i + 1)) ps
    return files ++ more

def collectArranged (tree : FileTree) (arrange : Nat → List String → List String)
    (paths : List Path) (extensions : List String) : Except CollectError (List SourceFile) := do
  let files ← ofPathsArranged tree (Extension.normalize extensions) arrange paths
  return SourceFile.dropRepeats (SourceFile.sort files)

theorem ofPathsArranged_id (tree : FileTree) (extensions : List String) (paths : List Path) :
    ofPathsArranged tree extensions (fun _ names => names) paths =
      ofPaths tree extensions paths := by
  induction paths with
  | nil => rfl
  | cons p ps ih =>
    rw [ofPathsArranged, ih]
    rfl

theorem collectArranged_id (tree : FileTree) (paths : List Path) (extensions : List String) :
    collectArranged tree (fun _ names => names) paths extensions =
      collect tree paths extensions := by
  rw [collectArranged, ofPathsArranged_id]
  rfl

/-- Outcomes that differ in the order of what is found, but not in the first file of any path. -/
inductive Alike : Except CollectError (List SourceFile) →
    Except CollectError (List SourceFile) → Prop
  | error (e : CollectError) : Alike (.error e) (.error e)
  | ok {files files' : List SourceFile} : (∀ f ∈ files, f.Named) → (∀ f ∈ files', f.Named) →
      (∀ cs, SourceFile.first? cs files = SourceFile.first? cs files') →
      Alike (.ok files) (.ok files')

theorem Alike.append {x x' y y' : Except CollectError (List SourceFile)} (hx : Alike x x')
    (hy : Alike y y') :
    Alike (do let files ← x; let more ← y; return files ++ more)
      (do let files ← x'; let more ← y'; return files ++ more) := by
  cases hx with
  | error e => exact .error e
  | ok hn hn' hf =>
    cases hy with
    | error e => exact .error e
    | ok hm hm' hg =>
      refine .ok ?_ ?_ fun cs => ?_
      · exact fun f h => (List.mem_append.1 h).elim (hn f) (hm f)
      · exact fun f h => (List.mem_append.1 h).elim (hn' f) (hm' f)
      · rw [SourceFile.first?_append, SourceFile.first?_append, hf, hg]

theorem Alike.sorted_eq {x x' : Except CollectError (List SourceFile)} (h : Alike x x') :
    (do let files ← x; return SourceFile.dropRepeats (SourceFile.sort files)) =
      (do let files ← x'; return SourceFile.dropRepeats (SourceFile.sort files)) := by
  cases h with
  | error e => rfl
  | ok hn hn' hf =>
    rw [Except.ok_bind, Except.ok_bind, SourceFile.dropRepeats_sort_congr hn hn' hf]

theorem named_ofPath (h : tree.WellFormed) (hf : tree.isFile q = true) :
    (SourceFile.ofPath q).Named := by
  have hq : tree.isFile (SourceFile.ofPath q).path = true := hf
  exact (named_of_isFile h hq rfl).1

theorem mem_ofDirectory {names : List String} {f : SourceFile} :
    f ∈ ofDirectory tree extensions q names ↔ ∃ name ∈ names, tree.isFile (q.join name) = true ∧
      Extension.accepts extensions (q.join name) = true ∧ SourceFile.ofPath (q.join name) = f := by
  simp only [ofDirectory, List.mem_map, List.mem_filter, Bool.and_eq_true]
  constructor
  · rintro ⟨_, ⟨⟨name, hn, rfl⟩, hf, ha⟩, rfl⟩
    exact ⟨name, hn, hf, ha, rfl⟩
  · rintro ⟨name, hn, hf, ha, rfl⟩
    exact ⟨_, ⟨⟨name, hn, rfl⟩, hf, ha⟩, rfl⟩

theorem eq_of_mem_ofDirectory (h : tree.WellFormed) (hl : tree.locate q = .ok loc)
    {names : List String} (hn : ∀ name ∈ names, name ∈ tree.children loc) {f g : SourceFile}
    (hf : f ∈ ofDirectory tree extensions q names) (hg : g ∈ ofDirectory tree extensions q names)
    (hc : f.path.components = g.path.components) : f = g := by
  obtain ⟨name, hm, -, -, rfl⟩ := mem_ofDirectory.1 hf
  obtain ⟨name', hm', -, -, rfl⟩ := mem_ofDirectory.1 hg
  have hd := FileTree.text_ne_of_locate hl
  simp only [SourceFile.ofPath] at hc
  rw [Path.components_join hd (h.isName_of_mem_children (hn _ hm)),
    Path.components_join hd (h.isName_of_mem_children (hn _ hm'))] at hc
  have hname : name = name' := by simpa using hc
  rw [hname]

/-- A directory has an entry of each name once, so that its order decides nothing. -/
theorem alike_ofDirectory (h : tree.WellFormed) (hl : tree.locate q = .ok loc)
    {names names' : List String} (hn : ∀ name ∈ names, name ∈ tree.children loc)
    (hm : ∀ name, name ∈ names ↔ name ∈ names') :
    Alike (.ok (ofDirectory tree extensions q names))
      (.ok (ofDirectory tree extensions q names')) := by
  have hs : ∀ f, f ∈ ofDirectory tree extensions q names ↔
      f ∈ ofDirectory tree extensions q names' := by
    intro f
    simp only [mem_ofDirectory, hm]
  have hf : ∀ f ∈ ofDirectory tree extensions q names, f.Named := by
    intro f hf
    obtain ⟨name, -, ha, -, rfl⟩ := mem_ofDirectory.1 hf
    exact named_ofPath h ha
  refine .ok hf (fun f hf' => hf f ((hs f).2 hf')) fun cs => SourceFile.first?_congr hs ?_
  intro f hf g hg
  exact eq_of_mem_ofDirectory h hl hn hf hg

theorem alike_file (h : tree.WellFormed) (hf : tree.isFile q = true) :
    Alike (.ok [SourceFile.ofPath q]) (.ok [SourceFile.ofPath q]) := by
  have hn : ∀ f ∈ [SourceFile.ofPath q], f.Named := by
    intro f hm
    obtain rfl := List.mem_singleton.1 hm
    exact named_ofPath h hf
  exact .ok hn hn fun _ => rfl

theorem alike_ofPathArranged (h : tree.WellFormed) {arrange : List String → List String}
    (ha : ∀ names, (arrange names).Perm names) (p : Path) :
    Alike (ofPathArranged tree extensions arrange p) (ofPath tree extensions p) := by
  rw [ofPath]
  cases hf : fault? tree p with
  | some e =>
    rw [ofPathArranged_of_fault hf, ofPathArranged_of_fault hf]
    exact .error e
  | none =>
    rcases file_or_directory hf with hf | ⟨loc, hl, hi⟩
    · rw [ofPathArranged_of_isFile hf, ofPathArranged_of_isFile hf]
      exact alike_file h hf
    · rw [ofPathArranged_of_directory hl hi, ofPathArranged_of_directory hl hi]
      exact alike_ofDirectory h hl (fun name => (ha _).mem_iff.1) fun name => (ha _).mem_iff

theorem alike_ofPathsArranged (h : tree.WellFormed) {arrange : Nat → List String → List String}
    (ha : ∀ i names, (arrange i names).Perm names) (paths : List Path) :
    Alike (ofPathsArranged tree extensions arrange paths) (ofPaths tree extensions paths) := by
  induction paths generalizing arrange with
  | nil => exact .ok (by simp) (by simp) fun _ => rfl
  | cons p ps ih => exact (alike_ofPathArranged h (ha 0) p).append (ih fun i => ha (i + 1))

theorem collectArranged_eq (h : tree.WellFormed) {arrange : Nat → List String → List String}
    (ha : ∀ i names, (arrange i names).Perm names) (paths : List Path) (extensions : List String) :
    collectArranged tree arrange paths extensions = collect tree paths extensions :=
  (alike_ofPathsArranged h ha paths).sorted_eq

theorem alike_ofPath_of_rearranges (h : tree.WellFormed) (hr : tree'.Rearranges tree) (p : Path) :
    Alike (ofPath tree' extensions p) (ofPath tree extensions p) := by
  have hf : ∀ p, tree'.isFile p = tree.isFile p := fun p => by
    rw [FileTree.isFile, FileTree.isFile, hr.stat_eq]
  have hm : isMissing tree' p = isMissing tree p := by
    rw [isMissing, isMissing, hf, FileTree.isDirectory, FileTree.isDirectory, hr.stat_eq]
  have hc : fault? tree' p = fault? tree p := by
    rw [fault?, fault?, hr.stat_eq, hm]
  rw [ofPath, ofPath]
  cases hn : fault? tree p with
  | some e =>
    rw [ofPathArranged_of_fault (hc.trans hn), ofPathArranged_of_fault hn]
    exact .error e
  | none =>
    rcases file_or_directory hn with hp | ⟨loc, hl, hi⟩
    · rw [ofPathArranged_of_isFile ((hf p).trans hp), ofPathArranged_of_isFile hp]
      exact alike_file h hp
    · rw [ofPathArranged_of_directory ((hr.locate_eq p).trans hl) ((hr.item?_eq loc).trans hi),
        ofPathArranged_of_directory hl hi]
      have ho : ofDirectory tree' extensions p (tree'.children loc) =
          ofDirectory tree extensions p (tree'.children loc) := by
        simp only [ofDirectory, hf]
      simp only [id, ho]
      exact alike_ofDirectory h hl (fun name => (hr.mem_children_iff loc name).1)
        (hr.mem_children_iff loc)

theorem collect_eq_of_rearranges (h : tree.WellFormed) (hr : tree'.Rearranges tree)
    (paths : List Path) (extensions : List String) :
    collect tree' paths extensions = collect tree paths extensions := by
  have ha : Alike (ofPaths tree' (Extension.normalize extensions) paths)
      (ofPaths tree (Extension.normalize extensions) paths) := by
    induction paths with
    | nil => exact .ok (by simp) (by simp) fun _ => rfl
    | cons p ps ih => exact (alike_ofPath_of_rearranges h hr p).append ih
  exact ha.sorted_eq

/-- A file that one path stands for, in the way it is written down there. -/
def Offers (tree : FileTree) (extensions : List String) (q : Path) (f : SourceFile) : Prop :=
  ∃ files, ofPath tree (Extension.normalize extensions) q = .ok files ∧ f ∈ files

theorem collect_eq_ok_iff : collect tree paths extensions = .ok files ↔
    ∃ all, ofPaths tree (Extension.normalize extensions) paths = .ok all ∧
      SourceFile.dropRepeats (SourceFile.sort all) = files := by
  rw [collect, Except.bind_eq_ok_iff]
  simp only [pure, Except.pure, Except.ok.injEq]

theorem exists_collect_iff (h : tree.WellFormed) :
    (∃ files, collect tree paths extensions = .ok files) ↔
      ∀ p ∈ paths, fault? tree p = none := by
  rw [← List.findSome?_eq_none_iff]
  have hp := finds_ofPaths h paths extensions
  split at hp <;> rename_i hm <;> rw [hm]
  · rw [collect, hp, Except.error_bind]
    simp
  · obtain ⟨all, ho, -⟩ := hp
    simpa using ⟨_, collect_eq_ok_iff.2 ⟨all, ho, rfl⟩⟩

theorem finds_of_ofPaths (h : tree.WellFormed)
    (ho : ofPaths tree (Extension.normalize extensions) paths = .ok files) :
    Finds tree extensions paths files ∧ ∀ f ∈ files, f.Named := by
  have hp := finds_ofPaths h paths extensions
  split at hp
  · rw [ho] at hp
    cases hp
  · obtain ⟨all, ha, hf⟩ := hp
    rw [ho, Except.ok.injEq] at ha
    subst ha
    exact ⟨hf, fun f hm => (named_of_isFile h (hf.isFile f hm) (eq_ofPath_of_mem_ofPaths ho hm)).1⟩

theorem named_of_mem_collect (h : tree.WellFormed)
    (hc : collect tree paths extensions = .ok files) : ∀ f ∈ files, f.Named := by
  obtain ⟨all, ho, rfl⟩ := collect_eq_ok_iff.1 hc
  intro f hf
  have hs := SourceFile.mem_of_mem_dropRepeats hf
  exact (finds_of_ofPaths h ho).2 f (SourceFile.mem_sort_iff.1 hs)

theorem map_components_collect (h : tree.WellFormed) (hp : ∀ p, p ∈ paths' ↔ p ∈ paths)
    (hc : collect tree paths extensions = .ok files)
    (hc' : collect tree paths' extensions = .ok files') :
    files'.map (·.path.components) = files.map (·.path.components) := by
  obtain ⟨all, ho, rfl⟩ := collect_eq_ok_iff.1 hc
  obtain ⟨all', ho', rfl⟩ := collect_eq_ok_iff.1 hc'
  obtain ⟨hf, hn⟩ := finds_of_ofPaths h ho
  obtain ⟨hf', hn'⟩ := finds_of_ofPaths h ho'
  have hs : ∀ p : Path, (∃ f ∈ all', f.path.components = p.components) ↔
      ∃ f ∈ all, f.path.components = p.components := by
    intro p
    rw [hf.mem_iff, hf'.mem_iff]
    simp only [hp]
  apply SourceFile.map_components_dropRepeats_sort hn' hn
  intro cs
  constructor
  · rintro ⟨f, hf, rfl⟩
    exact (hs f.path).1 ⟨f, hf, rfl⟩
  · rintro ⟨f, hf, rfl⟩
    exact (hs f.path).2 ⟨f, hf, rfl⟩

theorem exists_earliest {cs : List Component}
    (ho : ofPaths tree (Extension.normalize extensions) paths = .ok files)
    (hf : SourceFile.first? cs files = some f) :
    ∃ before q after, paths = before ++ q :: after ∧ Offers tree extensions q f ∧
      ∀ q' ∈ before, ∀ g, Offers tree extensions q' g → g.path.components ≠ cs := by
  induction paths generalizing files with
  | nil =>
    cases ho
    cases hf
  | cons p ps ih =>
    obtain ⟨fs, hp, ho⟩ := Except.bind_eq_ok_iff.1 ho
    obtain ⟨gs, hps, ho⟩ := Except.bind_eq_ok_iff.1 ho
    cases ho
    rw [SourceFile.first?_append] at hf
    cases hfs : SourceFile.first? cs fs with
    | some k =>
      rw [hfs, Option.some_or, Option.some.injEq] at hf
      subst hf
      exact ⟨[], p, ps, rfl, ⟨fs, hp, (SourceFile.mem_of_first? hfs).1⟩, by simp⟩
    | none =>
      rw [hfs, Option.none_or] at hf
      obtain ⟨before, q, after, rfl, hq, hb⟩ := ih hps hf
      refine ⟨p :: before, q, after, rfl, hq, ?_⟩
      rintro q' hq' g hg
      rcases List.mem_cons.1 hq' with rfl | hq'
      · obtain ⟨fs', hp', hg⟩ := hg
        rw [hp, Except.ok.injEq] at hp'
        subst hp'
        exact SourceFile.first?_eq_none_iff.1 hfs g hg
      · exact hb q' hq' g hg

theorem mapIdx_name {α : Type} (g : Nat → String → α) (files : List SourceFile) :
    (files.mapIdx fun j f => g j f.name) = (files.map (·.name)).mapIdx g := by
  apply List.ext_getElem?
  intro j
  rw [List.getElem?_mapIdx, List.getElem?_mapIdx, List.getElem?_map, Option.map_map]
  rfl

/-- Neither the order in which directories list their entries nor that in which the tree holds its
items changes what is collected. Paths in another order, or given again, succeed alike and yield
the same components, names and numbers; what is written down in several ways is kept in the way
of the earliest path. -/
theorem collect_arrangement (tree : FileTree) (h : tree.WellFormed) (paths : List Path)
    (extensions : List String) :
    (∀ arrange : Nat → List String → List String, (∀ i names, (arrange i names).Perm names) →
      collectArranged tree arrange paths extensions = collect tree paths extensions) ∧
    (∀ tree' : FileTree, tree'.Rearranges tree →
      collect tree' paths extensions = collect tree paths extensions) ∧
    (∀ paths', (∀ p, p ∈ paths' ↔ p ∈ paths) →
      ((∃ files, collect tree paths' extensions = .ok files) ↔
        ∃ files, collect tree paths extensions = .ok files) ∧
      ∀ files files', collect tree paths extensions = .ok files →
        collect tree paths' extensions = .ok files' →
        files'.map (·.path.components) = files.map (·.path.components) ∧
        files'.map (·.name) = files.map (·.name) ∧
        (files'.mapIdx fun j f => (fieldName (j + 1), f.name)) =
          files.mapIdx fun j f => (fieldName (j + 1), f.name)) ∧
    ∀ files f, collect tree paths extensions = .ok files → f ∈ files →
      ∃ before q after, paths = before ++ q :: after ∧ Offers tree extensions q f ∧
        ∀ q' ∈ before, ∀ g, Offers tree extensions q' g →
          g.path.components ≠ f.path.components := by
  refine ⟨fun arrange ha => collectArranged_eq h ha paths extensions,
    fun tree' hr => collect_eq_of_rearranges h hr paths extensions, fun paths' hp => ⟨?_, ?_⟩, ?_⟩
  · rw [exists_collect_iff h, exists_collect_iff h]
    simp only [hp]
  · intro files files' hc hc'
    have hm := map_components_collect h hp hc hc'
    have hn := SourceFile.map_name_eq (named_of_mem_collect h hc') (named_of_mem_collect h hc) hm
    refine ⟨hm, hn, ?_⟩
    rw [mapIdx_name fun j name => (fieldName (j + 1), name), mapIdx_name, hn]
  · intro files f hc hf
    obtain ⟨all, ho, rfl⟩ := collect_eq_ok_iff.1 hc
    exact exists_earliest ho ((SourceFile.mem_dropRepeats_sort_iff (finds_of_ofPaths h ho).2).1 hf)

theorem collect_arrangement_sample :
    let tree : FileTree := ⟨[(["src"], .directory), (["src", "b.py"], .file []),
      (["src", "a.py"], .file []), (["notes"], .file [])], []⟩
    let tree' : FileTree := { tree with items := tree.items.reverse }
    let paths : List Path := [⟨"src"⟩, ⟨"notes"⟩, ⟨"src//"⟩]
    tree.WellFormed ∧ tree'.Rearranges tree ∧
    collectArranged tree (fun _ => List.reverse) paths ["py"] = collect tree' paths ["py"] ∧
    ∃ files files', collect tree paths ["py"] = .ok files ∧
      collect tree (⟨"src//"⟩ :: paths) ["py"] = .ok files' ∧
      files'.map (·.name) = files.map (·.name) := by
  intro tree tree' paths
  have h : tree.WellFormed := by decide +kernel
  have hr : tree'.Rearranges tree :=
    FileTree.rearranges_of_perm (List.reverse_perm _) (by decide +kernel) rfl
  obtain ⟨ha, ht, hp, -⟩ := collect_arrangement tree h paths ["py"]
  obtain ⟨he, hf⟩ := hp (⟨"src//"⟩ :: paths) (by simp [paths])
  obtain ⟨files, hc⟩ : ∃ files, collect tree paths ["py"] = .ok files :=
    (exists_collect_iff h).2 (by decide +kernel)
  obtain ⟨files', hc'⟩ := he.2 ⟨files, hc⟩
  refine ⟨h, hr, ?_, files, files', hc, hc', (hf files files' hc hc').2.1⟩
  rw [ht tree' hr]
  exact ha _ fun _ => List.reverse_perm

end Collection

end SimilarityClient
