import Forwarding.Proofs.Backend
import Forwarding.Proofs.Crate.Layout

/-!
# Packages in code and on disk

In a crate a package is a chain of directories on disk and a chain of modules in the paths of the
code.  A directory has the safe form of its package segment as its name, the module declared for it
has the identifier of that name, and a path names the module by the identifier of the segment
itself.  The two identifiers are the same, for a safe form is its own safe form.

* `ClassName.modules`: the modules that are declared for the directories of a package;
* `Declaration.ofEntry_directoryName`: one directory and its segment;
* `CratePath.ofClass_eq`, `CratePath.spell_ofClass`: a path consists of these modules and the
  identifier of the class, and is written so;
* `ClassName.packageModules_agree`: the directories, the declarations and the path together.
-/

namespace Forwarding

open Text

/-- The modules that are declared for the directories of a package, or the first fault. -/
def ClassName.modules (name : ClassName) : Except NameFault (List Declaration) :=
  (Backend.rust.directories name).mapM fun directory => Declaration.ofEntry ⟨directory, false⟩

/-- The module of a directory has the identifier of the package segment, and there is none for the
same fault. -/
theorem Declaration.ofEntry_directoryName (segment : String) :
    Declaration.ofEntry ⟨Backend.rust.directoryName segment, false⟩ =
      (Ident.ofName segment).map fun ident => ⟨ident, false⟩ := by
  have hsafe : Backend.rust.directoryName segment = safeName segment := by
    unfold Backend.directoryName
    rfl
  rw [hsafe]
  delta ofEntry
  simp only [Ident.ofName_safeName]

/-- A module root that declares the directory alone declares the identifier of the package
segment. -/
theorem moduleSource_directoryName (segment : String) :
    moduleSource [⟨Backend.rust.directoryName segment, false⟩] =
      (Ident.ofName segment).map fun ident => "pub mod " ++ ident.text ++ " ;" := by
  rw [moduleSource, List.mapM_cons, List.mapM_nil, Declaration.ofEntry_directoryName]
  cases Ident.ofName segment with
  | error fault => rfl
  | ok ident =>
    have htext : "pub" ++ " " ++ ("mod" ++ " " ++ (ident.text ++ " " ++ ";")) =
        "pub mod " ++ ident.text ++ " ;" := by
      rw [← String.toList_inj]
      simp
    exact congrArg Except.ok htext

theorem ClassName.modules_eq (name : ClassName) :
    name.modules = (name.packageSegments.mapM Ident.ofName).map (List.map (⟨·, false⟩)) := by
  have hsegments : (fun segment =>
      Declaration.ofEntry ⟨Backend.rust.directoryName segment, false⟩) =
        fun segment => (Ident.ofName segment).map (⟨·, false⟩) :=
    funext Declaration.ofEntry_directoryName
  rw [modules, Backend.directories, List.mapM_map, ← mapM_except_map, ← hsegments,
    Function.comp_def]

/-- The path of a class consists of the modules of its package and the identifier of the class, and
fails where the first of them does. -/
theorem CratePath.ofClass_eq (name : ClassName) :
    CratePath.ofClass name = do
      let modules ← name.modules
      let ident ← Ident.ofName name.simpleName
      return ⟨modules.map (·.ident) ++ [ident]⟩ := by
  rw [ofClass, ClassName.modules_eq, List.mapM_append]
  cases name.packageSegments.mapM Ident.ofName with
  | error fault => rfl
  | ok idents =>
    have hidents : (idents.map fun ident => (⟨ident, false⟩ : Declaration)).map (·.ident) =
        idents := by
      rw [List.map_map]
      exact List.map_id idents
    cases hname : Ident.ofName name.simpleName with
    | error fault => simp [hname, bind, Except.bind, Except.map]
    | ok ident =>
      simp only [List.mapM_cons, List.mapM_nil, hname, bind, Except.bind, pure, Except.pure,
        Except.map, hidents]

/-- A path is written as its modules and the identifier of the class, from the crate on. -/
theorem CratePath.spell_ofClass (name : ClassName) :
    (CratePath.ofClass name).map (fun path => Token.spell path.tokens) = do
      let modules ← name.modules
      let ident ← Ident.ofName name.simpleName
      return " :: ".intercalate ("crate" :: modules.map (·.ident.text) ++ [ident.text]) := by
  rw [ofClass_eq]
  cases name.modules with
  | error fault => rfl
  | ok modules =>
    cases Ident.ofName name.simpleName with
    | error fault => rfl
    | ok ident =>
      refine congrArg Except.ok ((CratePath.spell_tokens _).trans ?_)
      rw [CratePath.text, List.map_append, List.map_map]
      rfl

/-- **The directories of a package, the modules declared for them and the path of a class in it
agree.**  The directories lie below each other under the output directory, and the file of the class
is taken relative to the last of them.  The path of the class consists of the modules declared for
the directories and of the identifier of the class, and is written so.  A directory has no module
exactly if its package segment has no identifier, for the same fault; and the identifier of a
segment in ASCII has the name of the directory. -/
theorem ClassName.packageModules_agree (outputDir : Path) {name : ClassName}
    (h : '/' ∉ name.package.toList) :
    let directories := Backend.rust.directories name
    (∀ front, front <+: directories →
        (outputDir.pushAll front).components = outputDir.components ++ front.map .named) ∧
      (Backend.rust.classPath outputDir name =
        (Backend.rust.fileName name.simpleName).map fun file =>
          (outputDir.pushAll directories).push (Path.ofText file)) ∧
      (CratePath.ofClass name = do
        let modules ← directories.mapM fun directory => Declaration.ofEntry ⟨directory, false⟩
        let ident ← Ident.ofName name.simpleName
        return ⟨modules.map (·.ident) ++ [ident]⟩) ∧
      ((CratePath.ofClass name).map (fun path => Token.spell path.tokens) = do
        let modules ← directories.mapM fun directory => Declaration.ofEntry ⟨directory, false⟩
        let ident ← Ident.ofName name.simpleName
        return " :: ".intercalate ("crate" :: modules.map (·.ident.text) ++ [ident.text])) ∧
      List.Forall₂ (fun directory segment =>
        (Declaration.ofEntry ⟨directory, false⟩).map (·.ident) = Ident.ofName segment ∧
          moduleSource [⟨directory, false⟩] =
            (Ident.ofName segment).map fun ident => "pub mod " ++ ident.text ++ " ;")
        directories name.packageSegments ∧
      ∀ segment ∈ name.packageSegments, isName segment = true → ∀ declaration,
        Declaration.ofEntry ⟨Backend.rust.directoryName segment, false⟩ = .ok declaration →
          declaration.ident.name = Backend.rust.directoryName segment := by
  intro directories
  refine ⟨fun front hfront => ?_, ?_, CratePath.ofClass_eq name, CratePath.spell_ofClass name,
    ?_, ?_⟩
  · exact Path.components_pushAll outputDir fun directory hdirectory =>
      Backend.rust.isStepName_directory h (hfront.subset hdirectory)
  · rw [Backend.classPath_eq]
    simp only [Path.pushAll_concat]
    rfl
  · refine List.forall₂_map_left_iff.2 (List.forall₂_same.2 fun segment _ => ?_)
    refine ⟨?_, moduleSource_directoryName segment⟩
    rw [Declaration.ofEntry_directoryName]
    cases Ident.ofName segment <;> rfl
  · intro segment _ hname declaration hdeclared
    rw [Declaration.ofEntry_directoryName] at hdeclared
    obtain ⟨ident, hident, rfl⟩ := map_eq_ok_iff.1 hdeclared
    exact Ident.name_of_ofName (fun c => isNameChar_of_isName hname) hident

/-- A package with a keyword, an empty segment, a path keyword and a dollar sign. -/
def keywordName : ClassName := ⟨"org.impl..crate.a$b", "Store"⟩

theorem packageModules_agree_keyword :
    '/' ∉ keywordName.package.toList ∧
      Backend.rust.directories keywordName = ["org", "impl", "crate_", "a_b"] ∧
      (Path.pushAll ⟨["out"]⟩ ["org", "impl"]).components =
        [.named "out", .named "org", .named "impl"] ∧
      (CratePath.ofClass keywordName).toOption =
        some ⟨[⟨"org", false⟩, ⟨"impl", true⟩, ⟨"crate_", false⟩, ⟨"a_b", false⟩,
          ⟨"Store", false⟩]⟩ ∧
      ((CratePath.ofClass keywordName).map fun path => Token.spell path.tokens).toOption =
        some "crate :: org :: r#impl :: crate_ :: a_b :: Store" := by
  have hslash : '/' ∉ keywordName.package.toList := by decide
  have hdirectories : Backend.rust.directories keywordName = ["org", "impl", "crate_", "a_b"] := by
    decide
  obtain ⟨hplace, -, hpath, htext, -⟩ := ClassName.packageModules_agree ⟨["out"]⟩ hslash
  rw [hdirectories] at hplace hpath htext
  refine ⟨hslash, hdirectories, hplace ["org", "impl"] ⟨_, rfl⟩, ?_, ?_⟩
  · rw [hpath]
    decide +kernel
  · rw [htext]
    decide +kernel

end Forwarding
