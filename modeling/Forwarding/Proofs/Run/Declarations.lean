import Forwarding.Proofs.Crate.Naming
import Forwarding.Proofs.Run.ModuleTree

/-!
# Declared modules and the names on disk

The name of a package directory is a safe form, but the name of a class file is only in snake case,
and a declaration has the safe form of either.  So in a fresh output directory the declared names
are those on disk exactly if the stems of the class files are safe forms, and no name is declared
twice exactly if no stem is the name of a directory beside the file.

* `Options.IsVacant`: there is nothing in the output directory;
* `Options.LeavesCrate.holds_iff`: what a run leaves in a directory of its crate;
* `Entry.nodup_map_name_iff`: when no name is both that of a file and of a directory;
* `Options.declared_names_iff`: when declared names and names on disk agree one to one;
* `Options.declared_crate_file`: a class whose module is declared under another name.
-/

namespace Forwarding

open FileTree Text

/-! ### Names in ASCII -/

/-- The segments of the package and the simple name are names in ASCII. -/
structure ClassName.IsAscii (name : ClassName) : Prop where
  segments : ∀ segment ∈ name.packageSegments, isName segment = true
  simpleName : isName name.simpleName = true

theorem ClassName.IsAscii.noSlash {name : ClassName} (h : name.IsAscii) : name.NoSlash where
  package := fun hslash => by
    obtain ⟨piece, hpiece, hc⟩ : ∃ piece ∈ pieces (· == '.') name.package.toList, '/' ∈ piece :=
      (exists_mem_pieces hslash).resolve_left (by decide)
    have hne : piece ≠ [] := List.ne_nil_of_mem hc
    have hsegment : String.ofList piece ∈ name.packageSegments :=
      List.mem_filter.2 ⟨List.mem_map_of_mem hpiece, by simpa using hne⟩
    have hchar : '/' ∈ (String.ofList piece).toList := by rwa [String.toList_ofList]
    exact absurd (isNameChar_of_isName (h.segments _ hsegment) hchar) (by decide)
  simpleName := fun hslash => absurd (isNameChar_of_isName h.simpleName hslash) (by decide)

/-! ### Entries and their names -/

/-- No name is that of two entries exactly if none is that of a file and of a directory. -/
theorem Entry.nodup_map_name_iff {entries : List Entry} (h : entries.Nodup) :
    (entries.map Entry.name).Nodup ↔
      ∀ name, ⟨name, true⟩ ∈ entries → ⟨name, false⟩ ∉ entries := by
  constructor
  · intro hnodup name hfile hdirectory
    have hsame := List.inj_on_of_nodup_map hnodup hfile hdirectory rfl
    cases hsame
  · intro hapart
    refine h.map_on ?_
    rintro ⟨name, isFile⟩ hfirst ⟨other, isOtherFile⟩ hsecond hname
    obtain rfl : name = other := hname
    cases isFile <;> cases isOtherFile
    · rfl
    · exact absurd hfirst (hapart name hsecond)
    · exact absurd hsecond (hapart name hfirst)
    · rfl

/-- Entries with names in ASCII are declared under their safe forms. -/
theorem map_name_of_declared {entries : List Entry} {declarations : List Declaration}
    (h : List.Forall₂ (fun entry declaration => Declaration.ofEntry entry = .ok declaration)
      entries declarations)
    (hascii : ∀ entry ∈ entries, ∀ c ∈ entry.name.toList, isNameChar c = true) :
    declarations.map (·.ident.name) = entries.map fun entry => safeName entry.name := by
  induction h with
  | nil => rfl
  | cons hdeclared _ ih =>
    obtain ⟨hname, hothers⟩ := List.forall_mem_cons.1 hascii
    obtain ⟨ident, hident, rfl⟩ := map_eq_ok_iff.1 hdeclared
    rw [List.map_cons, List.map_cons, ih hothers, Ident.name_of_ofName hname hident]

namespace Options

variable {options : Options}

/-! ### Fresh output directories -/

/-- There is nothing in the output directory.  It is there, or the way to it does not lead up, so
that making it makes nothing in it. -/
structure IsVacant (options : Options) (tree : FileTree) : Prop where
  look : ∀ rest, rest ≠ [] →
    tree.look (options.outputDir.location tree.workDir ++ rest) = none
  direct : tree.isDir options.outputDir = true ∨ .parent ∉ options.outputDir.components

theorem IsVacant.of_outputDir {other : Options} {tree : FileTree} (h : options.IsVacant tree)
    (hsame : other.outputDir = options.outputDir) : other.IsVacant tree :=
  ⟨hsame ▸ h.look, hsame ▸ h.direct⟩

/-- The way to the output directory does not lead through what is in it. -/
theorem IsVacant.not_onWay {tree : FileTree} (h : options.IsVacant tree) {rest : List String}
    (hne : rest ≠ []) :
    ¬ OnWay tree.workDir options.outputDir.components
      (options.outputDir.location tree.workDir ++ rest) := by
  intro hway
  rcases h.direct with hdirectory | hparent
  · have hlook := look_of_onWay hdirectory hway
    rw [h.look rest hne] at hlook
    cases hlook
  · obtain ⟨front, hfront, hnil, hlocation⟩ := hway
    have hshort := (Path.along_isPrefix_location tree.workDir hparent hfront hnil).length_le
    rw [← hlocation, List.length_append] at hshort
    exact hne (List.length_eq_zero_iff.1 (by omega))

/-- Below the output directory the way of names leads through beginnings of the names alone. -/
theorem IsVacant.isPrefix_of_onWay {tree : FileTree} (h : options.IsVacant tree)
    {names rest : List String} (hne : rest ≠ [])
    (hway : OnWay tree.workDir (options.outputDir.components ++ names.map .named)
      (options.outputDir.location tree.workDir ++ rest)) : rest <+: names := by
  obtain ⟨front, hfront, hnil, hlocation⟩ := hway
  -- what is below the output directory is not yet on the way to it
  rcases List.prefix_or_prefix_of_prefix hfront (List.prefix_append _ _) with habove | ⟨more, rfl⟩
  · exact absurd ⟨front, habove, hnil, hlocation⟩ (h.not_onWay hne)
  · obtain ⟨others, hothers, rfl⟩ :=
      List.prefix_map_iff.1 ((List.prefix_append_right_inj _).1 hfront)
    rw [Location.along_append, Location.along_named] at hlocation
    exact List.append_cancel_left hlocation ▸ hothers

section Crate

variable {tree classes last : FileTree} {targets : List Target} {names : List String}
  {file : String}

/-- Below the output directory there are the directories on the way to the places of classes. -/
theorem LeavesCrate.look_directory_iff (h : options.LeavesCrate tree targets classes last)
    (hvacant : options.IsVacant tree) {rest : List String} (hne : rest ≠ []) :
    classes.look (options.outputDir.location tree.workDir ++ rest) = some .directory ↔
      ∃ names file, options.IsPlace targets names file ∧ rest <+: names := by
  constructor
  · intro hlook
    rcases h.grows.look (options.outputDir.location tree.workDir ++ rest) with hsame |
      ⟨⟨names, file, hplace, hway⟩, -⟩ | ⟨-, -, text, htext⟩
    · rw [hsame, hvacant.look rest hne] at hlook
      cases hlook
    · exact ⟨names, file, hplace, hvacant.isPrefix_of_onWay hne hway⟩
    · rw [htext] at hlook
      cases hlook
  · rintro ⟨names, file, hplace, hrest⟩
    exact (h.root names file rest hplace hrest).1

/-- Below the output directory there are the files of classes, before the module roots are
written. -/
theorem LeavesCrate.look_file_below_iff (h : options.LeavesCrate tree targets classes last)
    (hvacant : options.IsVacant tree) {front : List String} {name : String} :
    (∃ text, classes.look (options.outputDir.location tree.workDir ++ front ++ [name]) =
        some (.file text)) ↔ options.IsPlace targets front name := by
  constructor
  · rintro ⟨text, hlook⟩
    rcases h.grows.look (options.outputDir.location tree.workDir ++ front ++ [name]) with hsame |
      ⟨-, -, hmade⟩ | ⟨⟨names, file, hplace, hlocation⟩, -⟩
    · rw [hsame, List.append_assoc, hvacant.look _ (by simp)] at hlook
      cases hlook
    · rw [hmade] at hlook
      cases hlook
    · obtain ⟨hfront, rfl⟩ := List.append_singleton_inj.1 hlocation
      rwa [List.append_cancel_left hfront]
  · exact h.place front name

/-- What a run leaves in a directory of its crate. -/
theorem LeavesCrate.holds_iff (h : options.LeavesCrate tree targets classes last)
    (hvacant : options.IsVacant tree) {front : List String} {entry : Entry} :
    last.Holds (options.outputDir.location tree.workDir ++ front) entry ↔
      if entry.isFile then
        entry.name ≠ "mod" ∧ entry.name ≠ "lib" ∧
          options.IsPlace targets front (entry.name ++ ".rs")
      else ∃ names file, options.IsPlace targets names file ∧ front ++ [entry.name] <+: names := by
  rw [h.isModuleRoot.holds_iff, Holds]
  split_ifs
  · rw [h.look_file_below_iff hvacant]
  · rw [List.append_assoc, h.look_directory_iff hvacant (by simp)]

/-! ### Declared names -/

/-- All classes of the targets have names in ASCII. -/
def AsciiNames (options : Options) (targets : List Target) : Prop :=
  ∀ target ∈ targets, ∀ unit, target.forwarder options.suffix = .ok unit → unit.name.IsAscii

/-- A directory on the way to a class has a name in a crate. -/
theorem IsPlace.isCrateName (h : options.IsPlace targets names file)
    (hbackend : options.backend = .rust) (hascii : options.AsciiNames targets) {name : String}
    (hname : name ∈ names) : IsCrateName name := by
  obtain ⟨target, hmem, unit, hunit, rfl, -⟩ := h
  rw [Backend.directories, hbackend] at hname
  obtain ⟨segment, hsegment, rfl⟩ := List.mem_map.1 hname
  have hsegmentName := (hascii target hmem unit hunit).segments segment hsegment
  exact
    { word := fun c hc => isWordChar_safeName (fun d => isNameChar_of_isName hsegmentName) hc
      not_keyword := safeName_not_keyword segment }

/-- The stem of a class file consists of the characters of names. -/
theorem IsPlace.isNameChar {stem : String} (h : options.IsPlace targets names (stem ++ ".rs"))
    (hbackend : options.backend = .rust) (hascii : options.AsciiNames targets) {c : Char}
    (hc : c ∈ stem.toList) : isNameChar c = true := by
  obtain ⟨target, hmem, unit, hunit, -, hfile⟩ := h
  rw [hbackend] at hfile
  obtain ⟨snake, hsnake, hstem⟩ := Backend.fileName_rust_eq_ok_iff.1 hfile
  obtain rfl := append_extension_inj.1 hstem
  have hname := (hascii target hmem unit hunit).simpleName
  have hchars : ∀ d ∈ unit.name.simpleName.toList, d.toNat < 128 := fun d hd =>
    toNat_lt_of_isNameChar (isNameChar_of_isName hname hd)
  rcases mem_snakeCase hchars hsnake hc with rfl | ⟨d, hd, rfl⟩
  · decide
  · exact isNameChar_toLower (isNameChar_of_isName hname hd)

/-- In a fresh output directory the names of the entries are written in ASCII. -/
theorem LeavesCrate.isNameChar (h : options.LeavesCrate tree targets classes last)
    (hbackend : options.backend = .rust) (hascii : options.AsciiNames targets)
    (hvacant : options.IsVacant tree) {front : List String} {entry : Entry}
    (hentry : last.Holds (options.outputDir.location tree.workDir ++ front) entry) {c : Char}
    (hc : c ∈ entry.name.toList) : Text.isNameChar c = true := by
  rw [h.holds_iff hvacant] at hentry
  split_ifs at hentry
  · exact hentry.2.2.isNameChar hbackend hascii hc
  · obtain ⟨names, file, hplace, hfront⟩ := hentry
    have hname := hplace.isCrateName hbackend hascii
      (hfront.subset (List.mem_append_right front List.mem_cons_self))
    exact isNameChar_of_isWordChar (hname.word c hc)

/-- The declared names are those on disk, and each is declared once, exactly if the stem of each
class file is its own safe form and is not the name of a directory beside it. -/
theorem LeavesCrate.names_iff (h : options.LeavesCrate tree targets classes last)
    (hbackend : options.backend = .rust) (hascii : options.AsciiNames targets)
    (hvacant : options.IsVacant tree) {front : List String} {entries : List Entry}
    (hmem : ∀ entry, entry ∈ entries ↔
      last.Holds (options.outputDir.location tree.workDir ++ front) entry)
    (hnodup : entries.Nodup) :
    ((entries.map fun entry => safeName entry.name).Nodup ∧
        (entries.map fun entry => safeName entry.name) = entries.map Entry.name) ↔
      ∀ stem, options.IsPlace targets front (stem ++ ".rs") → stem ≠ "mod" → stem ≠ "lib" →
        '$' ∉ stem.toList ∧ stem ∉ pathKeywords ∧
          ∀ names file, options.IsPlace targets names file → ¬ front ++ [stem] <+: names := by
  have hfile : ∀ stem, ⟨stem, true⟩ ∈ entries ↔
      stem ≠ "mod" ∧ stem ≠ "lib" ∧ options.IsPlace targets front (stem ++ ".rs") := fun stem => by
    rw [hmem, h.holds_iff hvacant, if_pos rfl]
  have hdirectory : ∀ name, ⟨name, false⟩ ∈ entries ↔
      ∃ names file, options.IsPlace targets names file ∧ front ++ [name] <+: names := fun name => by
    rw [hmem, h.holds_iff hvacant, if_neg Bool.false_ne_true]
  have hsame : (entries.map fun entry => safeName entry.name) = entries.map Entry.name ↔
      ∀ entry ∈ entries, safeName entry.name = entry.name := List.map_inj_left
  have hapart := Entry.nodup_map_name_iff hnodup
  constructor
  · rintro ⟨honce, hnames⟩ stem hplace hmod hlib
    have hentry := (hfile stem).2 ⟨hmod, hlib, hplace⟩
    rw [hnames, hapart] at honce
    have hself : safeName stem = stem := hsame.1 hnames ⟨stem, true⟩ hentry
    rw [safeName_eq_self_iff] at hself
    obtain ⟨hdollar, hkeyword⟩ := hself
    exact ⟨hdollar, hkeyword, fun names file hother hfront =>
      honce stem hentry ((hdirectory stem).2 ⟨names, file, hother, hfront⟩)⟩
  · intro hstems
    have hnames : (entries.map fun entry => safeName entry.name) = entries.map Entry.name := by
      refine hsame.2 ?_
      rintro ⟨name, isFile⟩ hentry
      cases isFile with
      | false =>
        -- the name of a directory is a safe form already
        obtain ⟨names, file, hplace, hfront⟩ := (hdirectory name).1 hentry
        have hcrate := hplace.isCrateName hbackend hascii
          (hfront.subset (List.mem_append_right front List.mem_cons_self))
        exact safeName_eq_self hcrate.word hcrate.not_keyword
      | true =>
        obtain ⟨hmod, hlib, hplace⟩ := (hfile name).1 hentry
        obtain ⟨hdollar, hkeyword, -⟩ := hstems name hplace hmod hlib
        exact safeName_eq_self_iff.2 ⟨hdollar, hkeyword⟩
    rw [hnames, hapart]
    refine ⟨fun name hentry hother => ?_, rfl⟩
    obtain ⟨hmod, hlib, hplace⟩ := (hfile name).1 hentry
    obtain ⟨names, file, hbelow, hfront⟩ := (hdirectory name).1 hother
    exact (hstems name hplace hmod hlib).2.2 names file hbelow hfront

end Crate

/-! ### Whole runs -/

/-- A run that ends well in a fresh output directory of a crate declares in each module root, under
their safe forms, the entries of its directory.  These are the names on disk, and each is declared
once, exactly if no stem of a class file in the directory has a dollar sign, is a path keyword, or
is the name of a directory beside the file. -/
theorem declared_names_iff {tree : FileTree} {last : Progress} {descriptor : Descriptor}
    (hbackend : options.backend = .rust) (hread : options.readInput tree = .ok descriptor)
    (hascii : options.AsciiNames descriptor.interfaces) (hvacant : options.IsVacant tree)
    (hrun : options.run tree = (last, none)) :
    let crate := options.outputDir.location tree.workDir
    ∀ names file front, options.IsPlace descriptor.interfaces names file → front <+: names →
      ∃ entries declarations,
        (∀ entry, entry ∈ entries ↔ last.tree.Holds (crate ++ front) entry) ∧ entries.Nodup ∧
        List.Forall₂ (fun entry declaration => Declaration.ofEntry entry = .ok declaration)
          entries declarations ∧
        last.tree.look (crate ++ front ++ [rootFile front]) =
          some (.file (options.format (moduleText declarations)).2) ∧
        declarations.map (·.ident.name) = entries.map (fun entry => safeName entry.name) ∧
        ((declarations.map (·.ident.name)).Nodup ∧
            declarations.map (·.ident.name) = entries.map Entry.name ↔
          ∀ stem, options.IsPlace descriptor.interfaces front (stem ++ ".rs") →
            stem ≠ "mod" → stem ≠ "lib" →
              '$' ∉ stem.toList ∧ stem ∉ pathKeywords ∧
                ∀ names file, options.IsPlace descriptor.interfaces names file →
                  ¬ front ++ [stem] <+: names) := by
  intro crate names file front hplace hfront
  have hslash : options.NoSlash descriptor.interfaces := fun target hmem unit hunit =>
    (hascii target hmem unit hunit).noSlash
  obtain ⟨classes, -, hleaves⟩ := run_leavesCrate hbackend hread hslash hrun (Or.inl rfl)
  obtain ⟨-, text, htext, hlook⟩ := hleaves.root names file front hplace hfront
  obtain ⟨declarations, ⟨entries, hdeclarations, hholds, -, hascending⟩, rfl⟩ :=
    exists_declares htext
  simp only [Declaration.isOf_iff] at hdeclarations
  have hmem : ∀ entry, entry ∈ entries ↔ last.tree.Holds (crate ++ front) entry := fun entry => by
    rw [hholds, hleaves.isModuleRoot.holds_iff]
  have hnodup : entries.Nodup := hascending _ (List.Perm.refl _) ▸ nodup_ascending _
  have hnames : declarations.map (·.ident.name) =
      entries.map fun entry => safeName entry.name :=
    map_name_of_declared hdeclarations fun entry hentry _ =>
      hleaves.isNameChar hbackend hascii hvacant ((hmem entry).1 hentry)
  refine ⟨entries, declarations, hmem, hnodup, hdeclarations, hlook, hnames, ?_⟩
  rw [hnames]
  exact hleaves.names_iff hbackend hascii hvacant hmem hnodup

/-- Where there is only the input file, the output directory is fresh. -/
theorem isVacant_input (text : String) :
    crateOptions.IsVacant (FileTree.empty.put ["in"] (.file text)) where
  look := fun rest _ => look_out_input text rest
  direct := Or.inr (by decide)

theorem asciiNames_storeTarget : crateOptions.AsciiNames [storeTarget] := by
  intro target hmem unit hunit
  obtain rfl := List.mem_singleton.1 hmem
  obtain rfl := Except.ok.inj hunit
  exact ⟨by decide, by decide⟩

theorem declared_names_iff_store :
    crateOptions.readInput storeTree = .ok ⟨[storeTarget]⟩ ∧
      crateOptions.AsciiNames [storeTarget] ∧ crateOptions.IsVacant storeTree ∧
      (crateOptions.run storeTree).2 = none ∧
      ∃ declarations : List Declaration,
        (crateOptions.run storeTree).1.tree.look ["out", "com", "mod.rs"] =
          some (.file (moduleText declarations)) ∧
        (declarations.map (·.ident.name)).Nodup := by
  have hrun : crateOptions.run storeTree = ((crateOptions.run storeTree).1, none) := by
    rw [← run_storeTree, Prod.eta]
  obtain ⟨entries, declarations, -, -, -, hlook, -, hnames⟩ :=
    declared_names_iff rfl readInput_storeTree asciiNames_storeTarget (isVacant_input _) hrun
      ["com"] "store_impl.rs" ["com"] (isPlace_storeTarget_iff.2 ⟨rfl, rfl⟩) (List.prefix_refl _)
  refine ⟨readInput_storeTree, asciiNames_storeTarget, isVacant_input _, run_storeTree,
    declarations, hlook, (hnames.2 fun stem hplace _ _ => ?_).1⟩
  obtain ⟨-, hstem⟩ := isPlace_storeTarget_iff.1 hplace
  obtain rfl : stem = "store_impl" := append_extension_inj.1 hstem
  refine ⟨by decide, by decide, fun names file hother => ?_⟩
  obtain ⟨rfl, -⟩ := isPlace_storeTarget_iff.1 hother
  decide

/-- The class `Crate` is written to `crate.rs`, but declared as the module `crate_`, for which there
is no file. -/
theorem declared_crate_file :
    crateOptions.readInput crateTree = .ok ⟨[crateTarget]⟩ ∧
      crateOptions.AsciiNames [crateTarget] ∧ crateOptions.IsVacant crateTree ∧
      (crateOptions.run crateTree).2 = none ∧
      (crateOptions.run crateTree).1.tree.look ["out", "com", "crate.rs"] ≠ none ∧
      (crateOptions.run crateTree).1.tree.look ["out", "com", "mod.rs"] =
        some (.file "mod crate_ ; pub use crate_ :: * ;") ∧
      (crateOptions.run crateTree).1.tree.look ["out", "com", "crate_.rs"] = none := by
  obtain ⟨hrun, -, hmod, hclass, hnone⟩ := look_crateTree
  have hascii : crateOptions.AsciiNames [crateTarget] := by
    intro target hmem unit hunit
    obtain rfl := List.mem_singleton.1 hmem
    obtain rfl := Except.ok.inj hunit
    exact ⟨by decide, by decide⟩
  exact ⟨readInput_crateTree, hascii, isVacant_input _, hrun, hclass, hmod, hnone⟩

end Options

end Forwarding
