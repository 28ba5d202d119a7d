import Forwarding.FileTree
import Forwarding.Proofs.Path

/-!
# The spelling of paths

Steps do not settle how a path is spelled, but the spelling of a parent comes from that of its path:
it is a beginning of it that ends in a step.

* `Path.parent?_spelling`: how a parent is spelled;
* `Path.spellingFault?_of_parent?`: it has no fault if the path has none;
* `Path.exists_parent?_push`: the parent of a path to which a name is pushed does not depend on the
  name;
* `Path.parent?_push_push`: after one more name it is the path before.
-/

namespace Forwarding.Path

/-! ### Parents -/

/-- The beginning and the body of a path are its segments. -/
theorem parts_append {path : Path} {head body : List String} (h : path.parts = (head, body)) :
    head ++ body = path.segments := by
  unfold parts at h
  split at h
  · rename_i hsegments
    obtain ⟨rfl, rfl⟩ := Prod.mk.inj h
    exact hsegments.symm
  · rename_i hsegments
    obtain ⟨rfl, rfl⟩ := Prod.mk.inj h
    exact hsegments.symm
  · obtain ⟨rfl, rfl⟩ := Prod.mk.inj h
    rfl

theorem segments_ofParts_concat {path : Path} {head body : List String}
    (h : path.parts = (head, body)) (front : List String) (last : String) :
    (ofParts head (front ++ [last])).segments = head ++ front ++ [last] := by
  rcases head_cases h with rfl | rfl | rfl <;> cases front <;> simp [ofParts]

/-- The last segment is a step, unless none is. -/
def IsTrimmed (path : Path) : Prop :=
  ∃ front last, path.segments = front ++ [last] ∧
    ((∃ step, Component.ofSegment? last = some step) ∨
      path.segments.filterMap Component.ofSegment? = [])

/-- A parent is trimmed, and spelled by the beginning of the path. -/
theorem parent?_spelling {path parent : Path} (h : path.parent? = some parent) :
    parent.IsTrimmed ∧
      (parent = ⟨[""]⟩ ∨ parent = ⟨["", ""]⟩ ∧ path.isAbsolute = true ∨
        parent.segments ≠ [] ∧ parent.segments <+: path.segments) := by
  obtain ⟨head, body, hparts⟩ : ∃ head body, path.parts = (head, body) := ⟨_, _, rfl⟩
  have hsegments := parts_append hparts
  rw [parent?, hparts] at h
  dsimp only at h
  split at h
  · split_ifs at h
    obtain rfl := Option.some.inj h
    exact ⟨⟨[], "", rfl, Or.inr rfl⟩, Or.inl rfl⟩
  · rename_i segments hne
    obtain rfl := Option.some.inj h
    have hfront : trimSegments (trimSegments body).dropLast <+: body :=
      (trimSegments_isPrefix _).trans
        ((List.dropLast_prefix _).trans (trimSegments_isPrefix body))
    have habsolute : head = [""] → path.isAbsolute = true := by
      rintro rfl
      unfold parts at hparts
      unfold isAbsolute
      split at hparts <;> simp_all
    obtain ⟨front, hfrontEq⟩ : ∃ front, front = trimSegments (trimSegments body).dropLast :=
      ⟨_, rfl⟩
    rw [← hfrontEq] at hfront ⊢
    rcases List.eq_nil_or_concat' front with rfl | ⟨others, last, rfl⟩
    · rcases head_cases hparts with rfl | rfl | rfl
      · exact ⟨⟨[], "", rfl, Or.inr rfl⟩, Or.inl rfl⟩
      · exact ⟨⟨[""], "", rfl, Or.inr rfl⟩, Or.inr (Or.inl ⟨rfl, habsolute rfl⟩)⟩
      · exact ⟨⟨[], ".", rfl, Or.inr rfl⟩, Or.inr (Or.inr ⟨by simp [ofParts],
          hsegments ▸ List.prefix_append _ _⟩)⟩
    · obtain ⟨step, hstep⟩ := ofSegment?_of_trimSegments hfrontEq.symm
      have hparent := segments_ofParts_concat hparts others last
      refine ⟨⟨head ++ others, last, hparent, Or.inl ⟨step, hstep⟩⟩,
        Or.inr (Or.inr ⟨by simp [hparent], ?_⟩)⟩
      rw [hparent, ← hsegments, List.append_assoc]
      exact (List.prefix_append_right_inj head).2 hfront

/-- The spelling of a beginning of the segments comes first in the spelling of all. -/
theorem exists_text_eq_append {front segments : List String} (h : front <+: segments)
    (hne : front ≠ []) :
    ∃ more, "/".intercalate segments = "/".intercalate front ++ more := by
  obtain ⟨rest, rfl⟩ := h
  induction front with
  | nil => exact absurd rfl hne
  | cons first others ih =>
    cases others with
    | nil =>
      cases rest with
      | nil => exact ⟨"", by simp⟩
      | cons next rest => exact ⟨"/" ++ "/".intercalate (next :: rest), by
          simp [String.intercalate_cons_cons, String.append_assoc]⟩
    | cons second others =>
      obtain ⟨more, hmore⟩ := ih (by simp)
      refine ⟨more, ?_⟩
      rw [List.cons_append, List.cons_append, String.intercalate_cons_cons, ← List.cons_append,
        hmore, String.intercalate_cons_cons]
      simp only [String.append_assoc]

/-- A path with steps is not spelled by the empty text. -/
theorem text_ne_empty {path : Path} (h : path.components ≠ []) : path.text ≠ "" := by
  obtain ⟨segments⟩ := path
  intro htext
  cases segments with
  | nil => exact h rfl
  | cons first rest =>
    cases rest with
    | nil =>
      have hfirst : first = "" := by simpa [text] using htext
      subst hfirst
      exact h rfl
    | cons next rest =>
      rw [text, String.intercalate_cons_cons] at htext
      simp at htext

/-- The empty text spells the only path without steps. -/
theorem text_eq_empty {path : Path} (h : path.components = []) : path.text = "" := by
  obtain ⟨segments⟩ := path
  obtain rfl | rfl | ⟨next, rest, rfl⟩ | ⟨rest, rfl⟩ | ⟨first, rest, rfl, hempty, hdot⟩ :=
    segments_cases segments
  · rfl
  · rfl
  · rw [components_of_parts (parts_absolute next rest)] at h
    cases h
  · rw [components_of_parts (parts_dot rest)] at h
    cases h
  · rw [components_of_parts (parts_plain rest hempty hdot)] at h
    by_cases hdots : first = ".." <;>
      simp [headSteps, Component.ofSegment?, hempty, hdot, hdots] at h

/-- If a path can be spelled, so can its parent. -/
theorem spellingFault?_of_parent? {path parent : Path} (h : path.parent? = some parent)
    (hspelling : FileTree.spellingFault? path = none) (hne : parent.components ≠ []) :
    FileTree.spellingFault? parent = none := by
  obtain ⟨more, hmore⟩ : ∃ more, path.text = parent.text ++ more := by
    rcases (parent?_spelling h).2 with rfl | ⟨rfl, habsolute⟩ | ⟨hsegments, hfront⟩
    · exact ⟨path.text, by simp [text]⟩
    · obtain ⟨segments⟩ := path
      unfold isAbsolute at habsolute
      split at habsolute
      · rename_i next rest hsegments
        obtain rfl : segments = "" :: next :: rest := hsegments
        exact ⟨"/".intercalate (next :: rest), by simp [text, String.intercalate_cons_cons]⟩
      · cases habsolute
    · exact exists_text_eq_append hfront hsegments
  unfold FileTree.spellingFault? at hspelling ⊢
  rw [hmore] at hspelling
  split_ifs at hspelling with hnul hempty hlong
  rw [String.toList_append, List.contains_append] at hnul
  rw [String.utf8ByteSize_append] at hlong
  rw [if_neg, if_neg (text_ne_empty hne), if_neg]
  · omega
  · intro hparent
    exact hnul (by rw [hparent, Bool.true_or])

theorem isAbsolute_iff {path : Path} :
    path.isAbsolute = true ↔ path.components.head? = some .root := by
  have hbody : path.segments.filterMap Component.ofSegment? ≠ [] →
      (path.segments.filterMap Component.ofSegment?).head? ≠ some .root := fun _ hroot => by
    obtain ⟨segment, -, hsegment⟩ := List.mem_filterMap.1 (List.mem_of_head? hroot)
    exact Component.ofSegment?_ne_root segment hsegment
  obtain ⟨head, hsteps, ⟨habsolute, rfl⟩ | ⟨hrelative, rfl | rfl⟩⟩ := path.components_cases
  · simp [hsteps, habsolute]
  · rw [hsteps, hrelative, List.nil_append]
    refine iff_of_false (by simp) fun hroot => hbody ?_ hroot
    rintro hnil
    rw [hnil] at hroot
    cases hroot
  · simp [hsteps, hrelative]

/-! ### Names that are pushed -/

theorem trimSegments_concat {name : String} (h : IsStepName name) (body : List String) :
    trimSegments (body ++ [name]) = body ++ [name] := by
  simp [trimSegments, Component.ofSegment?_name h]

theorem push_ofText (path : Path) {name : String} (h : IsStepName name) :
    path.push (ofText name) =
      ⟨(if path.segments.getLast? = some "" then path.segments.dropLast else path.segments) ++
        [name]⟩ := by
  rw [ofText_of_no_slash h.no_slash, push, isAbsolute_eq_false [] h.ne_empty,
    if_neg Bool.false_ne_true]
  split_ifs <;> rfl

theorem parent?_of_parts {path : Path} {head body : List String} {name : String}
    (h : IsStepName name) (hparts : path.parts = (head, body ++ [name])) :
    path.parent? = some (ofParts head (trimSegments body)) := by
  simp only [parent?, hparts, trimSegments_concat h]
  split
  · rename_i heq
    simp at heq
  · rw [List.dropLast_concat]

/-- The parent does not depend on the name. -/
theorem exists_parent?_push (path : Path) :
    ∃ parent, ∀ name, IsStepName name → (path.push (ofText name)).parent? = some parent := by
  obtain ⟨head, body, -, hconcat⟩ := parts_concat
    (if path.segments.getLast? = some "" then path.segments.dropLast else path.segments)
  refine ⟨ofParts head (trimSegments body), fun name h => parent?_of_parts h ?_⟩
  rw [push_ofText path h]
  exact hconcat name h.ne_dot

/-- A path that ends in a name is the parent of what is pushed to it. -/
theorem parent?_push_push (path : Path) {name other : String} (h : IsStepName name)
    (hother : IsStepName other) :
    ((path.push (ofText name)).push (ofText other)).parent? = some (path.push (ofText name)) := by
  obtain ⟨front, hfront⟩ : ∃ front, path.push (ofText name) = ⟨front ++ [name]⟩ :=
    ⟨_, push_ofText path h⟩
  rw [hfront, push_ofText _ hother]
  have hlast : (front ++ [name]).getLast? ≠ some "" := by simp [h.ne_empty]
  rw [if_neg hlast]
  obtain ⟨head, body, -, hconcat⟩ := parts_concat front
  obtain ⟨otherHead, otherBody, hself, hmore⟩ := parts_concat (front ++ [name])
  obtain ⟨rfl, rfl⟩ := Prod.mk.inj ((hself hlast).symm.trans (hconcat name h.ne_dot))
  have hparts := hself hlast
  have hsegments : (ofParts otherHead (body ++ [name])).segments = front ++ [name] := by
    rw [segments_ofParts_concat hparts, List.append_assoc]
    exact parts_append hparts
  rw [parent?_of_parts hother (hmore other hother.ne_dot), trimSegments_concat h, ← hsegments]

end Forwarding.Path
