import Forwarding.ClassName
import Forwarding.Proofs.Text.Pieces

/-!
# Qualified names

A simple name without a dot can be read back from the qualified name: the cut at the last dot
undoes the joining (`ClassName.ofQualified_qualified`), so that different classes have different
qualified names (`ClassName.qualified_inj`).  Where the simple name has a dot, the cut makes another
class of the same qualified name, whose package has more segments
(`ClassName.length_packageSegments_lt`).  A package without empty segments is made of its segments
(`ClassName.HasPlainPackage.package_eq`).
-/

namespace Forwarding.ClassName

theorem qualified_of_default {name : ClassName} (h : name.package = "") :
    name.qualified = name.simpleName := if_pos h

theorem qualified_of_package {name : ClassName} (h : name.package ≠ "") :
    name.qualified = name.package ++ "." ++ name.simpleName := if_neg h

theorem toList_qualified {name : ClassName} (h : name.package ≠ "") :
    name.qualified.toList = name.package.toList ++ '.' :: name.simpleName.toList := by
  rw [qualified_of_package h, String.toList_append, String.toList_append, List.append_assoc]
  rfl

/-- How a text is put together that is the qualified name of a class. -/
theorem qualified_eq_iff {name : ClassName} {text : String} :
    name.qualified = text ↔
      name.package.toList = [] ∧ text.toList = name.simpleName.toList ∨
        name.package.toList ≠ [] ∧
          text.toList = name.package.toList ++ '.' :: name.simpleName.toList := by
  rw [← String.toList_inj, eq_comm]
  by_cases hp : name.package = ""
  · simp [qualified_of_default hp, hp]
  · have hne : name.package.toList ≠ [] := by simpa using hp
    simp [toList_qualified hp, hne]

/-- A qualified name has a dot exactly if it has a package or the simple name has one. -/
theorem dot_mem_qualified {name : ClassName} (h : '.' ∉ name.simpleName.toList) :
    '.' ∈ name.qualified.toList ↔ name.package ≠ "" := by
  by_cases hp : name.package = ""
  · simp [qualified_of_default hp, h, hp]
  · simp [toList_qualified hp, hp]

/-- The cut at the last dot gives the class back if its simple name has no dot. -/
theorem ofQualified_qualified {name : ClassName} (h : '.' ∉ name.simpleName.toList) :
    ofQualified name.qualified = name := by
  by_cases hp : name.package = ""
  · have hcut : Text.splitLast '.' name.qualified.toList = none := by
      rw [qualified_of_default hp]
      exact Text.splitLast_eq_none_iff.2 h
    rw [ofQualified, hcut, qualified_of_default hp, ← hp]
  · have hcut := Text.splitLast_append name.package.toList h
    rw [← toList_qualified hp] at hcut
    simp only [ofQualified, hcut, String.ofList_toList]

theorem qualified_inj {a b : ClassName} (ha : '.' ∉ a.simpleName.toList)
    (hb : '.' ∉ b.simpleName.toList) : a.qualified = b.qualified ↔ a = b := by
  refine ⟨fun h => ?_, fun h => by rw [h]⟩
  rw [← ofQualified_qualified ha, h, ofQualified_qualified hb]

/-! ### The cut at the last dot -/

theorem ofQualified_of_dot {text : String} {before after : List Char}
    (htext : text.toList = before ++ '.' :: after) (hafter : '.' ∉ after) :
    ofQualified text = ⟨String.ofList before, String.ofList after⟩ := by
  rw [ofQualified, htext, Text.splitLast_append before hafter]

theorem ofQualified_of_no_dot {text : String} (h : '.' ∉ text.toList) :
    ofQualified text = ⟨"", text⟩ := by
  rw [ofQualified, Text.splitLast_eq_none_iff.2 h]

/-- A text with a dot is what precedes its last dot, the dot, and what follows. -/
theorem exists_last_dot {text : String} (h : '.' ∈ text.toList) :
    ∃ before after, text.toList = before ++ '.' :: after ∧ '.' ∉ after := by
  cases hcut : Text.splitLast '.' text.toList with
  | none => exact absurd h (Text.splitLast_eq_none_iff.1 hcut)
  | some cut => exact ⟨cut.1, cut.2, Text.splitLast_eq_some_iff.1 hcut⟩

theorem dot_not_mem_ofQualified (text : String) :
    '.' ∉ (ofQualified text).simpleName.toList := by
  by_cases hdot : '.' ∈ text.toList
  · obtain ⟨before, after, htext, hafter⟩ := exists_last_dot hdot
    rwa [ofQualified_of_dot htext hafter, String.toList_ofList]
  · rwa [ofQualified_of_no_dot hdot]

/-- The cut gives a class back only if its simple name has no dot, for it never leaves one there. -/
theorem ofQualified_qualified_iff {name : ClassName} :
    ofQualified name.qualified = name ↔ '.' ∉ name.simpleName.toList := by
  refine ⟨fun hsame => ?_, ofQualified_qualified⟩
  rw [← hsame]
  exact dot_not_mem_ofQualified name.qualified

/-- The parts of a text, joined again, are the text, unless its only dot comes first. -/
theorem qualified_ofQualified_iff {text : String} :
    (ofQualified text).qualified = text ↔ ∀ rest, text.toList = '.' :: rest → '.' ∈ rest := by
  by_cases hdot : '.' ∈ text.toList
  · obtain ⟨before, after, htext, hafter⟩ := exists_last_dot hdot
    rw [ofQualified_of_dot htext hafter, htext]
    cases before with
    | nil =>
      have hlost : (⟨String.ofList [], String.ofList after⟩ : ClassName).qualified ≠ text := by
        intro hsame
        rw [qualified_of_default rfl] at hsame
        have hlength := congrArg (fun name => name.toList.length) hsame
        simp [htext] at hlength
      simp [hlost, hafter]
    | cons c before =>
      have hkept : (⟨String.ofList (c :: before), String.ofList after⟩ : ClassName).qualified =
          text := by
        rw [← String.toList_inj, toList_qualified (by simp), htext]
        simp
      refine iff_of_true hkept fun rest hrest => ?_
      rw [← (List.cons.inj hrest).2]
      simp
  · refine iff_of_true ?_ fun rest hrest => absurd (hrest ▸ List.mem_cons_self) hdot
    rw [ofQualified_of_no_dot hdot, qualified_of_default rfl]

/-- The cut makes a class of the same qualified name if the simple name does not begin with a
dot. -/
theorem qualified_ofQualified_qualified {name : ClassName}
    (h : name.simpleName.toList.head? ≠ some '.') :
    (ofQualified name.qualified).qualified = name.qualified := by
  refine qualified_ofQualified_iff.2 fun rest hrest => ?_
  by_cases hpackage : name.package = ""
  · rw [qualified_of_default hpackage] at hrest
    exact absurd (by rw [hrest]; rfl) h
  · rw [toList_qualified hpackage] at hrest
    cases hchars : name.package.toList with
    | nil => exact absurd (String.toList_eq_nil_iff.1 hchars) hpackage
    | cons c others =>
      rw [hchars] at hrest
      rw [← (List.cons.inj hrest).2]
      simp

/-! ### Segments of packages -/

theorem packageSegments_append (before after simpleName : String) :
    (ClassName.mk (before ++ "." ++ after) simpleName).packageSegments =
      (ClassName.mk before simpleName).packageSegments ++
        (ClassName.mk after simpleName).packageSegments := by
  have htext : (before ++ "." ++ after).toList = before.toList ++ '.' :: after.toList := by simp
  have hpieces : Text.pieces (· == '.') (before ++ "." ++ after).toList =
      Text.pieces (· == '.') before.toList ++ Text.pieces (· == '.') after.toList := by
    rw [htext]
    exact Text.pieces_append rfl before.toList after.toList
  simp only [packageSegments, Text.stringPieces, hpieces, List.map_append, List.filter_append]

theorem packageSegments_ne_nil {name : ClassName} {c : Char} (hc : c ∈ name.package.toList)
    (hdot : c ≠ '.') : name.packageSegments ≠ [] := by
  rcases @Text.exists_mem_pieces (· == '.') _ _ hc with hsame | ⟨piece, hpiece, hmem⟩
  · exact absurd (beq_iff_eq.1 hsame) hdot
  · refine List.ne_nil_of_mem (a := String.ofList piece) (List.mem_filter.2 ⟨?_, ?_⟩)
    · exact List.mem_map_of_mem hpiece
    · simpa using List.ne_nil_of_mem hmem

/-- The package is the default one, or none of its segments is empty. -/
def HasPlainPackage (name : ClassName) : Prop :=
  name.package = "" ∨ "" ∉ Text.stringPieces '.' name.package

/-- Such a package is its segments joined by dots. -/
theorem HasPlainPackage.package_eq {name : ClassName} (h : name.HasPlainPackage) :
    name.package = ".".intercalate name.packageSegments := by
  rcases h with hdefault | hpieces
  · rw [packageSegments, hdefault]
    rfl
  · have hall : name.packageSegments = Text.stringPieces '.' name.package := by
      refine List.filter_eq_self.2 fun segment hsegment => decide_eq_true ?_
      rintro rfl
      exact hpieces hsegment
    rw [hall]
    exact (Text.intercalate_stringPieces '.' name.package).symm

/-- If the simple name has a dot, but not as its first character, the cut at the last dot of the
qualified name finds more segments in the package. -/
theorem length_packageSegments_lt {name : ClassName} (hdot : '.' ∈ name.simpleName.toList)
    (hhead : name.simpleName.toList.head? ≠ some '.') :
    name.packageSegments.length < (ofQualified name.qualified).packageSegments.length := by
  obtain ⟨start, stop, hsimple, hstop⟩ := exists_last_dot hdot
  have hfound : (ClassName.mk (String.ofList start) (String.ofList stop)).packageSegments ≠ [] := by
    cases start with
    | nil => exact absurd (by rw [hsimple]; rfl) hhead
    | cons c rest =>
      refine packageSegments_ne_nil (c := c) (by simp) ?_
      rintro rfl
      exact hhead (by rw [hsimple]; rfl)
  have hpos := List.length_pos_of_ne_nil hfound
  by_cases hpackage : name.package = ""
  · have hnone : name.packageSegments = [] := by
      rw [packageSegments, hpackage]
      rfl
    rw [qualified_of_default hpackage, ofQualified_of_dot hsimple hstop, hnone]
    exact hpos
  · have htext : name.qualified.toList =
        (name.package ++ "." ++ String.ofList start).toList ++ '.' :: stop := by
      rw [toList_qualified hpackage, hsimple]
      simp
    rw [ofQualified_of_dot htext hstop, String.ofList_toList, packageSegments_append,
      List.length_append]
    -- the segments of a package do not depend on the simple name beside it
    exact Nat.lt_add_of_pos_right hpos

end Forwarding.ClassName
